import StoryLoom.Pattern.Compile
import StoryLoom.Pattern.Legal
import StoryLoom.Proofs.Dictionary.Splitting
import StoryLoom.Proofs.List.Runs

/-!
# Stripping — what is left of a value without its rejected characters

- `leftOf`, `partsOf`   : what is left of a text, as a whole and between the characters that are left out
- `Exposes`             : a registered sequence that comes about only where characters are left out
- `tokens_leftOf_iff`   : what is left has the same tokens just if nothing is exposed
- `stripped_by_parts`   : the parts are written one by one, and what is left is written alike if nothing is
  exposed

The marks are put in before characters are left out, in one pass from left to right. So a sequence whose ends
come together by stripping is not marked.
-/

namespace StoryLoom
namespace Escapes

open Runs

/-! ## Tokens that are written -/

/-- Sequences are always written, characters if they are accepted. -/
def Token.isKept (accepts : Char → Bool) : Token → Bool
  | .escaped _ => true
  | .plain c => accepts c

variable {table : List Entry} {accepts : Char → Bool} {text near far rest : List Char} {t : Token}
  {ts later : List Token}

/-- What is left of a text when rejected characters are left out. -/
def leftOf (table : List Entry) (accepts : Char → Bool) (text : List Char) : List Char :=
  sources ((tokens table text).filter (Token.isKept accepts))

/-- The parts of a text between the characters that are left out. -/
def partsOf (table : List Entry) (accepts : Char → Bool) (text : List Char) : List (List Char) :=
  ((tokens table text).splitOnP fun t => !t.isKept accepts).map sources

/-- A registered sequence starts with the first text and reaches into the second. -/
def Crosses (table : List Entry) (near far : List Char) : Prop :=
  ∃ e ∈ table, near.length < e.sequence.length ∧ e.sequence <+: near ++ far

/-- In what is left of some tokens, a registered sequence starts with one of them and reaches over a place
where characters are left out. -/
def Exposes (table : List Entry) (accepts : Char → Bool) (ts : List Token) : Prop :=
  ∃ before t after, ts = before ++ t :: after ∧ t.isKept accepts = true ∧
    Crosses table (t.source ++ sources (after.takeWhile (Token.isKept accepts)))
      (sources ((after.dropWhile (Token.isKept accepts)).filter (Token.isKept accepts)))

/-- What is exposed behind a token is exposed. -/
theorem Exposes.of_cons (h : Exposes table accepts ts) (t : Token) :
    Exposes table accepts (t :: ts) := by
  obtain ⟨before, u, after, rfl, kept, crosses⟩ := h
  exact ⟨t :: before, u, after, rfl, kept, crosses⟩

/-! ## The token in front of a longer or a shorter rest -/

/-- A token that leads a text leads a shorter one, of which no longer sequence starts. -/
theorem Token.Leads.of_prefix (h : t.Leads table rest) (shorter : near <+: rest) :
    t.Leads table near := by
  have within : t.source ++ near <+: t.source ++ rest := (List.prefix_append_right_inj _).2 shorter
  cases t with
  | escaped e => exact ⟨h.1, fun f hf starts => h.2 f hf (starts.trans within)⟩
  | plain c => exact fun f hf starts => h f hf (starts.trans within)

/-- A token leads a longer text too, unless a sequence reaches from it into what is added. -/
theorem Token.Leads.of_not_crosses (h : t.Leads table near)
    (apart : ¬ Crosses table (t.source ++ near) far) : t.Leads table (near ++ far) := by
  -- A sequence that starts there and does not cross lies in what is near.
  have within : ∀ f ∈ table, f.sequence <+: t.source ++ (near ++ far) →
      f.sequence <+: t.source ++ near := by
    intro f hf starts
    rw [← List.append_assoc] at starts
    have short : f.sequence.length ≤ (t.source ++ near).length := by
      by_contra long
      exact apart ⟨f, hf, Nat.lt_of_not_le long, starts⟩
    exact List.prefix_of_prefix_length_le starts (List.prefix_append _ _) short
  cases t with
  | escaped e => exact ⟨h.1, fun f hf starts => h.2 f hf (within f hf starts)⟩
  | plain c => exact fun f hf starts => h f hf (within f hf starts)

theorem Token.Leads.not_crosses (h : t.Leads table (near ++ far)) :
    ¬ Crosses table (t.source ++ near) far := by
  rintro ⟨f, hf, long, starts⟩
  rw [List.append_assoc] at starts
  cases t with
  | escaped e =>
    have short : f.sequence.length ≤ e.sequence.length := h.2 f hf starts
    rw [Token.source, List.length_append] at long
    omega
  | plain c => exact h f hf starts

/-! ## What is left as a whole -/

theorem prefix_sources_takeWhile (p : Token → Bool) (ts : List Token) :
    sources (ts.takeWhile p) <+: sources ts := by
  conv_rhs => rw [← List.takeWhile_append_dropWhile (p := p) (l := ts), sources_append]
  exact List.prefix_append _ _

theorem leads_of_splits (h : Splits table text (ts ++ t :: later)) :
    t.Leads table (sources later) := by
  induction ts generalizing text with
  | nil =>
    cases h with
    | cons leads splits => rwa [sources_of_splits splits]
  | cons u ts ih =>
    cases h with
    | cons leads splits => exact ih splits

/-- Where nothing is exposed, the tokens that are kept split what is left. -/
theorem splits_filter (h : Splits table text ts) (hidden : ¬ Exposes table accepts ts) :
    Splits table (sources (ts.filter (Token.isKept accepts))) (ts.filter (Token.isKept accepts)) := by
  induction h with
  | nil => exact .nil
  | @cons t rest ts leads splits ih =>
    have below := ih fun exposes => hidden (exposes.of_cons t)
    by_cases kept : t.isKept accepts = true
    -- A kept token leads up to the next gap as before, and beyond it as nothing crosses the gap.
    · obtain rfl := sources_of_splits splits
      have near := leads.of_prefix (prefix_sources_takeWhile (Token.isKept accepts) ts)
      have whole := near.of_not_crosses fun crosses => hidden ⟨[], t, ts, rfl, kept, crosses⟩
      rw [← sources_append, takeWhile_append_filter_dropWhile] at whole
      rw [List.filter_cons_of_pos kept, sources_cons]
      exact .cons whole below
    · rw [List.filter_cons_of_neg kept]
      exact below

/-- What is left of a text has the tokens that are written for the text, just if nothing is exposed. -/
theorem tokens_leftOf_iff (distinct : Distinct table) :
    tokens table (leftOf table accepts text) =
        (tokens table text).filter (Token.isKept accepts) ↔
      ¬ Exposes table accepts (tokens table text) := by
  have split := splits_tokens distinct.nonempty text
  constructor
  · rintro same ⟨before, t, after, whole, kept, crosses⟩
    have splitLeft := splits_tokens distinct.nonempty (leftOf table accepts text)
    rw [same, whole, List.filter_append, List.filter_cons_of_pos kept] at splitLeft
    have leads := leads_of_splits splitLeft
    rw [← takeWhile_append_filter_dropWhile, sources_append] at leads
    exact leads.not_crosses crosses
  · intro hidden
    exact ((splits_iff distinct).1 (splits_filter split hidden)).symm

/-- Sequences of one character are never exposed. -/
theorem not_exposes_of_single (single : ∀ e ∈ table, e.sequence.length = 1)
    (nonempty : ∀ t ∈ ts, t.source ≠ []) : ¬ Exposes table accepts ts := by
  rintro ⟨before, t, after, rfl, -, e, he, long, -⟩
  have source : t.source ≠ [] := nonempty t (List.mem_append_right _ List.mem_cons_self)
  have positive : 0 < t.source.length := List.length_pos_iff.2 source
  rw [single e he, List.length_append] at long
  omega

/-! ## Part by part -/

/-- The tokens of a text between two characters that are left out are the tokens of the part there. -/
theorem splits_part (h : Splits table text ts) :
    ∀ run ∈ ts.splitOnP (fun t => !t.isKept accepts), Splits table (sources run) run := by
  induction h with
  | nil =>
    intro run hrun
    rw [List.splitOnP_nil] at hrun
    rw [List.mem_singleton.1 hrun]
    exact .nil
  | @cons t rest ts leads splits ih =>
    intro run hrun
    rw [List.splitOnP_cons_eq_if_modifyHead] at hrun
    by_cases kept : t.isKept accepts = true
    -- A kept token goes to the front of the first part.
    · obtain ⟨others, runs⟩ := splitOnP_eq_takeWhile_cons (fun t => !t.isKept accepts) ts
      rw [runs] at hrun ih
      simp only [kept, Bool.not_true, Bool.false_eq_true, if_false, List.modifyHead_cons] at hrun
      rcases List.mem_cons.1 hrun with rfl | other
      · obtain rfl := sources_of_splits splits
        rw [sources_cons]
        exact .cons (leads.of_prefix (prefix_sources_takeWhile _ ts)) (ih _ List.mem_cons_self)
      · exact ih run (List.mem_cons_of_mem _ other)
    · simp only [kept, Bool.not_false, if_true] at hrun
      rcases List.mem_cons.1 hrun with rfl | later
      · exact .nil
      · exact ih run later

/-- Tokens are written part by part. -/
theorem written_splitOnP (accepts : Char → Bool) (ts : List Token) :
    (ts.splitOnP fun t => !t.isKept accepts).flatMap (List.flatMap (render fun _ => true)) =
      ts.flatMap (render accepts) := by
  induction ts with
  | nil => simp
  | cons t ts ih =>
    obtain ⟨others, runs⟩ := splitOnP_eq_takeWhile_cons (fun t => !t.isKept accepts) ts
    rw [List.splitOnP_cons_eq_if_modifyHead, List.flatMap_cons, ← ih, runs]
    cases t with
    | escaped e => simp [Token.isKept, render]
    | plain c =>
      by_cases accepted : accepts c = true
      · simp [Token.isKept, render, accepted]
      · simp [Token.isKept, render, accepted]

/-- The parts between the rejected characters make up what is left. -/
theorem flatten_partsOf : (partsOf table accepts text).flatten = leftOf table accepts text := by
  have whole := flatten_splitOnP (fun t => !t.isKept accepts) (tokens table text)
  simp only [Bool.not_not] at whole
  rw [leftOf, ← whole, partsOf]
  simp only [sources, List.flatMap_def, List.map_flatten, List.flatten_flatten, List.map_map]
  rfl

/-! ## Written values -/

theorem toList_escapeValue (value : String) (table : Table String String) :
    (escapeValue value table accepts).toList =
      (tokens (entries table) value.toList).flatMap (render accepts) :=
  String.toList_ofList

/-- Only kept tokens are written. -/
theorem written_filter (accepts : Char → Bool) (ts : List Token) :
    (ts.filter (Token.isKept accepts)).flatMap (render fun _ => true) = ts.flatMap (render accepts) := by
  induction ts with
  | nil => rfl
  | cons t ts ih =>
    rw [List.flatMap_cons, ← ih]
    cases t with
    | escaped e => rw [List.filter_cons_of_pos rfl, List.flatMap_cons, render, render]
    | plain c =>
      by_cases kept : (Token.plain c).isKept accepts = true
      · have accepted : accepts c = true := kept
        rw [List.filter_cons_of_pos kept, List.flatMap_cons, render, render, if_pos rfl,
          if_pos accepted]
      · have rejected : ¬ accepts c = true := kept
        rw [List.filter_cons_of_neg kept, render, if_neg rejected, List.nil_append]

/-- A value from which rejected characters are left out is written part by part, as the parts are by
themselves. What is left of it has the tokens that were written just if no registered sequence is exposed,
and then it is written like the value; sequences of one character are never exposed. -/
theorem stripped_by_parts (value : String) (table : Table String String) (accepts : Char → Bool) :
    let left := leftOf (entries table) accepts value.toList
    let parts := partsOf (entries table) accepts value.toList
    let written := fun text => (escapeValue (String.ofList text) table fun _ => true).toList
    parts.flatten = left ∧
      (escapeValue value table accepts).toList = parts.flatMap written ∧
      (tokens (entries table) left =
          (tokens (entries table) value.toList).filter (Token.isKept accepts) ↔
        ¬ Exposes (entries table) accepts (tokens (entries table) value.toList)) ∧
      (¬ Exposes (entries table) accepts (tokens (entries table) value.toList) →
        (escapeValue value table accepts).toList = written left) ∧
      ((∀ e ∈ entries table, e.sequence.length = 1) →
        (escapeValue value table accepts).toList = written left) := by
  intro left parts written
  have distinct := distinct_entries table
  have split := splits_tokens distinct.nonempty value.toList
  have alike : ¬ Exposes (entries table) accepts (tokens (entries table) value.toList) →
      (escapeValue value table accepts).toList = written left := by
    intro hidden
    simp only [written, left, toList_escapeValue, String.toList_ofList,
      (tokens_leftOf_iff distinct).2 hidden, written_filter]
  refine ⟨flatten_partsOf, ?_, tokens_leftOf_iff distinct, alike, ?_⟩
  · -- A part is a run of tokens that are kept, and these are its tokens by itself too.
    have byPart : ∀ run ∈ (tokens (entries table) value.toList).splitOnP (fun t => !t.isKept accepts),
        written (sources run) = run.flatMap (render fun _ => true) := by
      intro run hrun
      have same := (splits_iff distinct).1 (splits_part split run hrun)
      simp only [written, toList_escapeValue, String.toList_ofList, ← same]
    calc (escapeValue value table accepts).toList
        = (tokens (entries table) value.toList).flatMap (render accepts) :=
          toList_escapeValue value table
      _ = ((tokens (entries table) value.toList).splitOnP fun t => !t.isKept accepts).flatMap
            (List.flatMap (render fun _ => true)) := (written_splitOnP accepts _).symm
      _ = ((tokens (entries table) value.toList).splitOnP fun t => !t.isKept accepts).flatMap
            (written ∘ sources) := (List.flatMap_congr byPart).symm
      _ = parts.flatMap written := (List.flatMap_map sources written _).symm
  · -- A sequence of one character has no middle that could be left out.
    intro single
    refine alike (not_exposes_of_single single ?_)
    intro t ht
    obtain ⟨before, after, whole⟩ := List.append_of_mem ht
    rw [whole] at split
    exact (leads_of_splits split).source_ne_nil distinct

open Libraries

/-- Two letters that are marked when they stand together. -/
def pairTable : Table String String :=
  .ofList [("ab", "\\")]

/-- When the letter between them is left out, the two letters come together and are not marked. -/
theorem pair_exposed :
    ∃ p, LegalPattern.compile "[ab]" = .ok p ∧
      leftOf (entries pairTable) (fun c => p.accepts [c]) "axb".toList = "ab".toList ∧
      escapeValue "axb" pairTable (fun c => p.accepts [c]) = "ab" ∧
      escapeValue "ab" pairTable (fun _ => true) = "\\ab" := by
  have compiled : (LegalPattern.compile "[ab]").toOption.map (fun p =>
      (leftOf (entries pairTable) (fun c => p.accepts [c]) "axb".toList,
        escapeValue "axb" pairTable fun c => p.accepts [c])) = some ("ab".toList, "ab") := by
    decide +kernel
  cases h : LegalPattern.compile "[ab]" with
  | error e =>
    rw [h] at compiled
    cases compiled
  | ok p =>
    rw [h] at compiled
    obtain ⟨left, written⟩ := Prod.mk.inj (Option.some.inj compiled)
    exact ⟨p, rfl, left, written, by decide⟩

end Escapes
end StoryLoom
