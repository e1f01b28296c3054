import StoryLoom.Dictionary.Escapes
import Mathlib.Data.List.Infix

/-!
# Splitting — the tokens of a value

- `Token.Leads`       : the token that a text starts with
- `Splits`            : a text cut into such tokens
- `find?_eq_longest?` : trying the sequences by their numbers of bytes finds the longest one
- `splits_iff`        : the tokens of a text are the only way to cut it
- `written_by_tokens` : what is written for a value; where all marks are one character that is itself a
  sequence, taking the marks away gives the value back

Which tokens a text has depends only on which entries there are, not on their order.
-/

namespace StoryLoom
namespace Escapes

/-! ## Cutting a text -/

def Token.source : Token → List Char
  | .escaped e => e.sequence
  | .plain c => [c]

def sources (ts : List Token) : List Char :=
  ts.flatMap Token.source

@[simp] theorem sources_cons {t : Token} {ts : List Token} :
    sources (t :: ts) = t.source ++ sources ts := rfl

@[simp] theorem sources_append {ts later : List Token} :
    sources (ts ++ later) = sources ts ++ sources later :=
  List.flatMap_append

/-- A token that starts a text with this rest: a registered sequence, if no longer one starts there, or a
character, if none starts there at all. -/
def Token.Leads (table : List Entry) (rest : List Char) : Token → Prop
  | .escaped e =>
    e ∈ table ∧ ∀ f ∈ table, f.sequence <+: e.sequence ++ rest →
      f.sequence.length ≤ e.sequence.length
  | .plain c => ∀ f ∈ table, ¬ f.sequence <+: c :: rest

/-- A text cut into tokens, each of which starts what is left of the text. -/
inductive Splits (table : List Entry) : List Char → List Token → Prop
  | nil : Splits table [] []
  | cons {t : Token} {rest : List Char} {ts : List Token} :
      t.Leads table rest → Splits table rest ts → Splits table (t.source ++ rest) (t :: ts)

/-- No sequence is empty, and no two entries have the same. -/
structure Distinct (table : List Entry) : Prop where
  nonempty : ∀ e ∈ table, e.sequence ≠ []
  same : ∀ e ∈ table, ∀ f ∈ table, e.sequence = f.sequence → e = f

variable {table : List Entry} {text rest rest' : List Char} {t t' : Token} {ts ts' : List Token}

/-- The tokens of a text make up the text. -/
theorem sources_of_splits (h : Splits table text ts) : sources ts = text := by
  induction h with
  | nil => rfl
  | cons leads splits ih => rw [sources_cons, ih]

/-- Splitting goes by the entries of a table and not by their order. -/
theorem Splits.of_mem_iff {table' : List Entry} (same : ∀ e, e ∈ table ↔ e ∈ table')
    (h : Splits table text ts) : Splits table' text ts := by
  induction h with
  | nil => exact .nil
  | @cons t rest ts leads splits ih =>
    refine .cons ?_ ih
    cases t with
    | escaped e => exact ⟨(same e).1 leads.1, fun f hf => leads.2 f ((same f).2 hf)⟩
    | plain c => exact fun f hf => leads f ((same f).2 hf)

/-! ## There is only one way -/

theorem Token.Leads.source_ne_nil (distinct : Distinct table) (h : t.Leads table rest) :
    t.source ≠ [] := by
  cases t with
  | escaped e => exact distinct.nonempty e h.1
  | plain c => exact List.cons_ne_nil c []

/-- Only one token starts a text. -/
theorem Token.Leads.unique (distinct : Distinct table) (h : t.Leads table rest)
    (h' : t'.Leads table rest') (text : t.source ++ rest = t'.source ++ rest') : t = t' := by
  cases t with
  | escaped e =>
    have starts : e.sequence <+: t'.source ++ rest' := ⟨rest, text⟩
    cases t' with
    | escaped f =>
      have starts' : f.sequence <+: e.sequence ++ rest := ⟨rest', text.symm⟩
      -- Each of the two starts the text, and neither is longer than the other.
      have lengths : e.sequence.length = f.sequence.length :=
        Nat.le_antisymm (h'.2 e h.1 starts) (h.2 f h'.1 starts')
      have sequences : e.sequence = f.sequence := List.append_inj_left text lengths
      rw [distinct.same e h.1 f h'.1 sequences]
    | plain c => exact absurd starts (h' e h.1)
  | plain c =>
    cases t' with
    | escaped f => exact absurd ⟨rest', text.symm⟩ (h f h'.1)
    | plain d =>
      cases text
      rfl

/-- A text is split in one way only. -/
theorem Splits.unique (distinct : Distinct table) (h : Splits table text ts)
    (h' : Splits table text ts') : ts = ts' := by
  induction h generalizing ts' with
  | nil =>
    generalize empty : ([] : List Char) = text at h'
    cases h' with
    | nil => rfl
    | cons leads splits =>
      exact absurd (List.append_eq_nil_iff.1 empty.symm).1 (leads.source_ne_nil distinct)
  | @cons t rest ts leads splits ih =>
    generalize whole : t.source ++ rest = text at h'
    cases h' with
    | nil => exact absurd (List.append_eq_nil_iff.1 whole).1 (leads.source_ne_nil distinct)
    | cons leads' splits' =>
      obtain rfl := leads.unique distinct leads' whole
      obtain rfl := List.append_cancel_left whole
      rw [ih splits']

/-! ## The longest sequence -/

/-- An entry with the longest of the sequences that start a text, or none if there is no such sequence. -/
inductive IsLongest (table : List Entry) (text : List Char) : Option Entry → Prop
  | none (free : ∀ f ∈ table, ¬ f.sequence <+: text) : IsLongest table text none
  | some {e : Entry} (listed : e ∈ table) (starts : e.sequence <+: text)
      (longest : ∀ f ∈ table, f.sequence <+: text → f.sequence.length ≤ e.sequence.length) :
      IsLongest table text (some e)

/-- One more entry is compared with the best so far. -/
theorem isLongest_better {best : Option Entry} (h : IsLongest table text best) (a : Entry) :
    IsLongest (table ++ [a]) text (better text best a) := by
  -- What the result of a fold says of the entries so far, it says of them and the next one.
  have extend : ∀ P : Entry → Prop, (∀ f ∈ table, P f) → P a → ∀ f ∈ table ++ [a], P f :=
    fun P old new => List.forall_mem_append.2 ⟨old, List.forall_mem_singleton.2 new⟩
  have last : a ∈ table ++ [a] := List.mem_append_right _ (List.mem_singleton_self a)
  by_cases starts : a.sequence <+: text
  · have prefixed : a.sequence.isPrefixOf text = true := List.isPrefixOf_iff_prefix.2 starts
    cases h with
    | none free =>
      simp only [better, prefixed, if_true]
      exact .some last starts
        (extend _ (fun f hf startsToo => absurd startsToo (free f hf)) fun _ => Nat.le_refl _)
    | @some b listed startsB longest =>
      by_cases longer : b.sequence.length < a.sequence.length
      · simp only [better, prefixed, if_true, longer]
        refine .some last starts (extend _ ?_ fun _ => Nat.le_refl _)
        exact fun f hf startsToo => Nat.le_of_lt (Nat.lt_of_le_of_lt (longest f hf startsToo) longer)
      · simp only [better, prefixed, if_true, longer, if_false]
        exact .some (List.mem_append_left _ listed) startsB
          (extend _ longest fun _ => Nat.le_of_not_lt longer)
  · have same : better text best a = best := by
      simp only [better, if_neg (mt List.isPrefixOf_iff_prefix.1 starts)]
    rw [same]
    cases h with
    | none free => exact .none (extend _ free starts)
    | some listed startsB longest =>
      exact .some (List.mem_append_left _ listed) startsB
        (extend _ longest fun startsToo => absurd startsToo starts)

theorem isLongest_longest? (table : List Entry) (text : List Char) :
    IsLongest table text (longest? table text) := by
  have fold : ∀ (later seen : List Entry) (best : Option Entry), IsLongest seen text best →
      IsLongest (seen ++ later) text (later.foldl (better text) best) := by
    intro later
    induction later with
    | nil =>
      intro seen best h
      rwa [List.append_nil]
    | cons a later ih =>
      intro seen best h
      rw [List.append_cons]
      exact ih _ _ (isLongest_better h a)
  exact fold table [] none (.none fun f hf => nomatch hf)

/-- Two entries of the same length that start one text are one entry. -/
theorem IsLongest.unique (distinct : Distinct table) {best best' : Option Entry}
    (h : IsLongest table text best) (h' : IsLongest table text best') : best = best' := by
  cases h with
  | none free =>
    cases h' with
    | none => rfl
    | some listed starts => exact absurd starts (free _ listed)
  | @some e listed starts longest =>
    cases h' with
    | none free => exact absurd starts (free e listed)
    | @some f listed' starts' longest' =>
      have lengths : e.sequence.length = f.sequence.length :=
        Nat.le_antisymm (longest' e listed starts) (longest f listed' starts')
      have sequences : e.sequence = f.sequence :=
        (List.prefix_of_prefix_length_le starts starts' (Nat.le_of_eq lengths)).eq_of_length lengths
      rw [distinct.same e listed f listed' sequences]

def Entry.byteSize (e : Entry) : Nat :=
  (String.ofList e.sequence).utf8ByteSize

/-- Of two sequences that start the same text, the one with no more bytes has no more characters. -/
theorem length_le_of_byteSize_le {e f : Entry} (he : e.sequence <+: text) (hf : f.sequence <+: text)
    (bytes : e.byteSize ≤ f.byteSize) : e.sequence.length ≤ f.sequence.length := by
  rcases List.prefix_or_prefix_of_prefix he hf with shorter | ⟨more, whole⟩
  · exact shorter.length_le
  · -- The rest of the longer one takes no bytes, so there is no rest.
    have sum : e.byteSize = f.byteSize + (String.ofList more).utf8ByteSize := by
      rw [Entry.byteSize, ← whole, String.ofList_append, String.utf8ByteSize_append]
      rfl
    have noBytes : (String.ofList more).utf8ByteSize = 0 := by omega
    have noMore : more = [] :=
      String.ofList_injective (String.utf8ByteSize_eq_zero_iff.1 noBytes)
    rw [← whole, noMore, List.append_nil]

/-- The first sequence that starts a text is the longest, if they are tried by their numbers of bytes, the
greatest first. -/
theorem find?_eq_longest? (distinct : Distinct table) {tried : List Entry} (perm : tried.Perm table)
    (ordered : tried.Pairwise fun e f => f.byteSize ≤ e.byteSize) (text : List Char) :
    tried.find? (fun e => e.sequence.isPrefixOf text) = longest? table text := by
  refine IsLongest.unique distinct ?_ (isLongest_longest? table text)
  cases found : tried.find? fun e => e.sequence.isPrefixOf text with
  | none =>
    refine .none fun f hf starts => ?_
    exact List.find?_eq_none.1 found f (perm.mem_iff.2 hf) (List.isPrefixOf_iff_prefix.2 starts)
  | some e =>
    -- None tried before it starts the text, and none tried after it has more bytes.
    obtain ⟨first, before, after, rfl, passed⟩ := List.find?_eq_some_iff_append.1 found
    have starts : e.sequence <+: text := List.isPrefixOf_iff_prefix.1 first
    refine .some (perm.mem_iff.1 (List.mem_append_right _ List.mem_cons_self)) starts ?_
    intro f hf startsToo
    rcases List.mem_append.1 (perm.mem_iff.2 hf) with earlier | later
    · have free := passed f earlier
      rw [List.isPrefixOf_iff_prefix.2 startsToo] at free
      cases free
    · rcases List.mem_cons.1 later with rfl | later
      · exact Nat.le_refl _
      · have behind := List.pairwise_cons.1 (List.pairwise_append.1 ordered).2.1
        exact length_le_of_byteSize_le startsToo starts (behind.1 f later)

/-! ## The tokens of a text -/

/-- Passing over the characters of a sequence is dropping them. -/
theorem tokensAfter_eq (table : List Entry) (n : Nat) (text : List Char) :
    tokensAfter table n text = tokens table (text.drop n) := by
  induction n generalizing text with
  | zero => rfl
  | succ n ih =>
    cases text with
    | nil => rfl
    | cons c rest => exact ih rest

/-- The tokens of a text split it. -/
theorem splits_tokens (nonempty : ∀ e ∈ table, e.sequence ≠ []) (text : List Char) :
    Splits table text (tokens table text) := by
  match text with
  | [] => exact .nil
  | c :: rest =>
    have found := isLongest_longest? table (c :: rest)
    rw [tokens, tokensAfter]
    generalize longest? table (c :: rest) = best at found
    cases found with
    | none free =>
      have leads : (Token.plain c).Leads table rest := free
      exact .cons leads (splits_tokens nonempty rest)
    | @some e listed starts longest =>
      obtain ⟨behind, whole⟩ := starts
      -- One character of the sequence is taken already; the others are dropped before going on.
      have behind_eq : rest.drop (e.sequence.length - 1) = behind := by
        cases hseq : e.sequence with
        | nil => exact absurd hseq (nonempty e listed)
        | cons d ds =>
          rw [hseq, List.cons_append] at whole
          cases whole
          exact List.drop_left
      have shorter : behind.length ≤ rest.length := by
        rw [← behind_eq, List.length_drop]
        exact Nat.sub_le _ _
      have split : Splits table (e.sequence ++ behind)
          (.escaped e :: tokensAfter table (e.sequence.length - 1) rest) := by
        have leads : (Token.escaped e).Leads table behind := by
          refine ⟨listed, ?_⟩
          rw [whole]
          exact longest
        rw [tokensAfter_eq, behind_eq]
        exact .cons leads (splits_tokens nonempty behind)
      rwa [whole] at split
termination_by text.length

/-- The tokens of a text are the only way to cut it. -/
theorem splits_iff (distinct : Distinct table) : Splits table text ts ↔ ts = tokens table text := by
  constructor
  · intro h
    exact h.unique distinct (splits_tokens distinct.nonempty text)
  · rintro rfl
    exact splits_tokens distinct.nonempty text

/-! ## The entries of a table -/

/-- The entries of a table are its pairs, those of the empty sequence left out. -/
theorem mem_entries_iff {table : Table String String} {e : Entry} :
    e ∈ entries table ↔
      e.sequence ≠ [] ∧
        table.get? (String.ofList e.sequence) = some (String.ofList e.mark) := by
  simp only [entries, List.mem_filter, List.mem_map, Table.get?_eq_some_iff]
  constructor
  · rintro ⟨⟨⟨key, mark⟩, listed, rfl⟩, nonempty⟩
    refine ⟨by simpa using nonempty, ?_⟩
    simpa using listed
  · rintro ⟨nonempty, listed⟩
    refine ⟨⟨_, listed, ?_⟩, by simpa using nonempty⟩
    simp

/-- No sequence is registered twice, since the keys of a table differ. -/
theorem distinct_entries (table : Table String String) : Distinct (entries table) where
  nonempty e he := (mem_entries_iff.1 he).1
  same e he f hf sequences := by
    obtain ⟨-, found⟩ := mem_entries_iff.1 he
    obtain ⟨-, found'⟩ := mem_entries_iff.1 hf
    rw [sequences] at found
    have marks : f.mark = e.mark := String.ofList_injective (Option.some.inj (found'.symm.trans found))
    cases e
    cases f
    cases sequences
    cases marks
    rfl

/-! ## Taking the marks away -/

/-- A text in which each mark and the character behind it have become that character. -/
def unmark (mark : Char) : List Char → List Char
  | [] => []
  | [c] => [c]
  | c :: d :: rest => if c = mark then d :: unmark mark rest else c :: unmark mark (d :: rest)

theorem unmark_cons_of_ne {mark c : Char} (other : c ≠ mark) (text : List Char) :
    unmark mark (c :: text) = c :: unmark mark text := by
  cases text with
  | nil => rfl
  | cons d rest => rw [unmark, if_neg other]

/-- Every sequence is one character, marked by the same character, which is a sequence itself. -/
structure Quotes (table : List Entry) (mark : Char) : Prop where
  single : ∀ e ∈ table, e.sequence.length = 1 ∧ e.mark = [mark]
  own : ∃ e ∈ table, e.sequence = [mark]

/-- Taking the marks away gives back the text they were put in. -/
theorem unmark_written {mark : Char} (quotes : Quotes table mark) (h : Splits table text ts) :
    unmark mark (ts.flatMap (render fun _ => true)) = text := by
  induction h with
  | nil => rfl
  | @cons t rest ts leads splits ih =>
    rw [List.flatMap_cons]
    cases t with
    | escaped e =>
      obtain ⟨single, marked⟩ := quotes.single e leads.1
      obtain ⟨c, hc⟩ := List.length_eq_one_iff.1 single
      simp only [render, Token.source, marked, hc, List.cons_append, List.nil_append, unmark, if_true,
        ih]
    | plain c =>
      -- As the mark is a sequence itself, it never stands in a text unmarked.
      have other : c ≠ mark := by
        rintro rfl
        obtain ⟨e, he, own⟩ := quotes.own
        exact leads e he (own ▸ ⟨rest, rfl⟩)
      simp only [render, Token.source, if_true, List.cons_append, List.nil_append,
        unmark_cons_of_ne other, ih]

/-! ## Written values -/

/-- A value is written token by token, and its tokens are the only way to cut it; the order of the table does
not matter. Where every sequence is one character and all marks are the same character, a sequence itself,
taking the marks away from the whole value as it is written gives the value back. -/
theorem written_by_tokens (value : String) (table : Table String String) (accepts : Char → Bool) :
    (∃! ts, Splits (entries table) value.toList ts) ∧
      (∀ ts, Splits (entries table) value.toList ts →
        (escapeValue value table accepts).toList = ts.flatMap (render accepts)) ∧
      (∀ other : Table String String, (∀ key, other.get? key = table.get? key) →
        escapeValue value other accepts = escapeValue value table accepts) ∧
      ∀ mark : Char,
        (∀ key m, table.get? key = some m → key.length = 1 ∧ m = String.singleton mark) →
        table.contains (String.singleton mark) = true →
        unmark mark (escapeValue value table fun _ => true).toList = value.toList := by
  have distinct := distinct_entries table
  have split := splits_tokens distinct.nonempty value.toList
  refine ⟨⟨_, split, fun ts h => h.unique distinct split⟩, ?_, ?_, ?_⟩
  · intro ts h
    rw [(splits_iff distinct).1 h, escapeValue, String.toList_ofList]
  · -- Both tables have the same entries, if in another order, and the tokens depend on the entries alone.
    intro other same
    have entries_iff : ∀ e, e ∈ entries table ↔ e ∈ entries other := by
      intro e
      rw [mem_entries_iff, mem_entries_iff, same]
    rw [escapeValue, escapeValue,
      (splits_iff (distinct_entries other)).1 (split.of_mem_iff entries_iff)]
  · intro mark single own
    -- So every sequence is a single character, and the mark itself is one of them.
    have quotes : Quotes (entries table) mark := by
      constructor
      · intro e he
        obtain ⟨-, found⟩ := mem_entries_iff.1 he
        obtain ⟨length, marked⟩ := single _ _ found
        refine ⟨by simpa using length, ?_⟩
        simpa using congrArg String.toList marked
      · obtain ⟨m, hm⟩ := Option.isSome_iff_exists.1 own
        refine ⟨⟨[mark], m.toList⟩, mem_entries_iff.2 ⟨List.cons_ne_nil _ _, ?_⟩, rfl⟩
        simpa using hm
    rw [escapeValue, String.toList_ofList]
    exact unmark_written quotes split

/-- Quotes and backslashes, marked by backslashes. -/
def backslashes : Table String String :=
  .ofList [("\"", "\\"), ("\\", "\\")]

theorem backslashes_taken_away :
    unmark '\\' (escapeValue "a\\ \"b\"" backslashes fun _ => true).toList = "a\\ \"b\"".toList := by
  have single : ∀ p ∈ backslashes.entries, p.1.length = 1 ∧ p.2 = String.singleton '\\' := by
    decide
  obtain ⟨-, -, -, readBack⟩ := written_by_tokens "a\\ \"b\"" backslashes fun _ => true
  exact readBack '\\' (fun key m found => single (key, m) (Table.get?_eq_some_iff.1 found)) (by decide)

end Escapes
end StoryLoom
