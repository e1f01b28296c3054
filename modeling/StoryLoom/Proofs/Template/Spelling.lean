import Mathlib.Data.List.Chain
import Mathlib.Data.List.DropRight
import StoryLoom.Template.Inline

/-!
# Spelling — the texts that inline templates are written as

- `Token`          : a plain character, a doubled brace, a label in braces
- `templateOf`     : the template that some tokens spell
- `read_eq_ok_iff` : reading accepts the texts made of tokens, and answers what their tokens spell
- `Normal`         : templates as reading answers them
- `Normal.read_write`   : such a template is read from what it is written as
- `reads_what_is_spelled` : reading and writing undo each other

A label holds no brace. So of two braces in a row the second one neither begins nor ends a label, and a
text is split into tokens in one way only.
-/

namespace StoryLoom

/-! ## Trimming -/

namespace Text

variable {cs : List Char}

theorem trimList_eq : trimList cs = (cs.dropWhile isBlank).rdropWhile isBlank := rfl

theorem mem_of_mem_trimList {c : Char} (h : c ∈ trimList cs) : c ∈ cs :=
  (List.dropWhile_suffix isBlank).mem ((List.rdropWhile_prefix isBlank _).mem h)

/-- Nothing is left exactly of blanks. -/
theorem trimList_eq_nil_iff : trimList cs = [] ↔ ∀ c ∈ cs, isBlank c = true := by
  rw [trimList_eq, List.rdropWhile_eq_nil_iff]
  constructor
  · intro blank
    -- What is left of the blanks in front would begin with a visible character.
    by_cases left : cs.dropWhile isBlank = []
    · exact List.dropWhile_eq_nil_iff.1 left
    · have visible := List.head_dropWhile_not isBlank left
      rw [blank _ (List.head_mem left)] at visible
      cases visible
  · intro blank c hc
    exact blank c ((List.dropWhile_suffix isBlank).mem hc)

/-- Trimming twice is trimming once. -/
theorem trimList_trimList : trimList (trimList cs) = trimList cs := by
  have front : (trimList cs).dropWhile isBlank = trimList cs := by
    rw [List.dropWhile_eq_self_iff]
    intro hl
    -- The first character that is kept is the first one behind the blanks in front.
    have kept : trimList cs <+: cs.dropWhile isBlank := List.rdropWhile_prefix isBlank _
    rw [kept.getElem hl]
    exact List.dropWhile_get_zero_not isBlank cs _
  calc trimList (trimList cs)
      = ((trimList cs).dropWhile isBlank).rdropWhile isBlank := trimList_eq
    _ = (trimList cs).rdropWhile isBlank := by rw [front]
    _ = trimList cs := List.rdropWhile_idempotent isBlank _

end Text

namespace Inline

/-! ## Tokens -/

def IsBrace (c : Char) : Prop :=
  c = '\x7b' ∨ c = '\x7d'

instance (c : Char) : Decidable (IsBrace c) :=
  inferInstanceAs (Decidable (_ ∨ _))

/-- What the text of a template is made of. -/
inductive Token
  | plain (c : Char)
  | doubled (c : Char)
  | label (cs : List Char)

namespace Token

def chars : Token → List Char
  | plain c => [c]
  | doubled c => [c, c]
  | label cs => '\x7b' :: cs ++ ['\x7d']

/-- Braces are doubled, and no other characters. A label holds no brace and is not blank. -/
def Legal : Token → Prop
  | plain c => ¬ IsBrace c
  | doubled c => IsBrace c
  | label cs => (∀ c ∈ cs, ¬ IsBrace c) ∧ ∃ c ∈ cs, Text.isBlank c = false

end Token

/-- The template that some tokens spell behind a text read in reverse. -/
def templateOf (read : List Char) : List Token → Template
  | [] => flush read []
  | .plain c :: rest => templateOf (c :: read) rest
  | .doubled c :: rest => templateOf (c :: read) rest
  | .label cs :: rest => flush read (.ref (String.ofList (Text.trimList cs)) :: templateOf [] rest)

/-- The texts that can be split into tokens. -/
def Spelled (text : String) : Prop :=
  ∃ tokens : List Token, (∀ k ∈ tokens, k.Legal) ∧ text.toList = tokens.flatMap Token.chars

variable {read cs rest : List Char} {tokens : List Token} {template : Template}

/-! ## Reading accepts what is spelled -/

/-- Within a label, all is read up to the brace that ends it. -/
theorem readFrom_label_append (free : ∀ c ∈ cs, ¬ IsBrace c) :
    readFrom (.label read) (cs ++ '\x7d' :: rest) =
      readFrom (.label (cs.reverse ++ read)) ('\x7d' :: rest) := by
  induction cs generalizing read with
  | nil => rfl
  | cons c cs ih =>
    have here : ¬ IsBrace c := free c List.mem_cons_self
    have later : ∀ c ∈ cs, ¬ IsBrace c := fun d hd => free d (List.mem_cons_of_mem c hd)
    calc readFrom (.label read) (c :: cs ++ '\x7d' :: rest)
        = readFrom (.label (c :: read)) (cs ++ '\x7d' :: rest) :=
          readFrom.eq_10 _ _ _ (fun same => here (.inr same)) fun same => here (.inl same)
      _ = readFrom (.label (cs.reverse ++ c :: read)) ('\x7d' :: rest) := ih later
      _ = readFrom (.label ((c :: cs).reverse ++ read)) ('\x7d' :: rest) := by
          rw [List.reverse_cons, List.append_assoc, List.singleton_append]

/-- A label ends at its brace and is trimmed. -/
theorem readFrom_label_end (visible : ∃ c ∈ cs, Text.isBlank c = false) :
    readFrom (.label cs.reverse) ('\x7d' :: rest) =
      (readFrom (.text []) rest).map (.ref (String.ofList (Text.trimList cs)) :: ·) := by
  have named : (Text.trimList cs).isEmpty = false := by
    obtain ⟨c, hc, hblank⟩ := visible
    rw [List.isEmpty_eq_false_iff]
    intro empty
    rw [Text.trimList_eq_nil_iff.1 empty c hc] at hblank
    cases hblank
  rw [readFrom, List.reverse_reverse]
  simp only [named, Bool.false_eq_true, if_false]

/-- The brace in front of a label is no doubled one. -/
theorem readFrom_label_start (free : ∀ c ∈ cs, ¬ IsBrace c) :
    readFrom (.text read) ('\x7b' :: (cs ++ '\x7d' :: rest)) =
      (readFrom (.label []) (cs ++ '\x7d' :: rest)).map (flush read) := by
  apply readFrom.eq_3
  intro behind same
  cases cs with
  | nil => cases same
  | cons c cs =>
    cases same
    exact free '\x7b' List.mem_cons_self (.inl rfl)

/-- Tokens are read as the template that they spell. -/
theorem readFrom_flatMap_chars (legal : ∀ k ∈ tokens, k.Legal) :
    readFrom (.text read) (tokens.flatMap Token.chars) = .ok (templateOf read tokens) := by
  induction tokens generalizing read with
  | nil => rfl
  | cons k tokens ih =>
    have here : k.Legal := legal k List.mem_cons_self
    have later : ∀ k ∈ tokens, k.Legal := fun j hj => legal j (List.mem_cons_of_mem k hj)
    cases k with
    | plain c =>
      have other : c ≠ '\x7b' ∧ c ≠ '\x7d' := not_or.1 here
      calc readFrom (.text read) (c :: tokens.flatMap Token.chars)
          = readFrom (.text (c :: read)) (tokens.flatMap Token.chars) :=
            readFrom.eq_6 _ _ _ (fun _ same => absurd same other.1) other.1
              (fun _ same => absurd same other.2) other.2
        _ = .ok (templateOf (c :: read) tokens) := ih later
    | doubled c =>
      have twice : readFrom (.text read) (c :: c :: tokens.flatMap Token.chars) =
          readFrom (.text (c :: read)) (tokens.flatMap Token.chars) := by
        rcases here with rfl | rfl
        · rw [readFrom]
        · rw [readFrom]
      exact twice.trans (ih later)
    | label cs =>
      obtain ⟨free, visible⟩ := here
      -- Reading changes to the label at its first brace, and back to text behind the second.
      have split : (Token.label cs :: tokens).flatMap Token.chars =
          '\x7b' :: (cs ++ '\x7d' :: tokens.flatMap Token.chars) := by
        simp [Token.chars]
      rw [split, readFrom_label_start free, readFrom_label_append free, List.append_nil,
        readFrom_label_end visible, ih later]
      rfl

/-! ## What is accepted is spelled -/

/-- What reading from a place may answer: a template spelled by tokens, behind the rest of a label if the
place is in one. -/
def Place.Answers : Place → List Char → Template → Prop
  | .text read, cs, template => ∃ tokens : List Token, (∀ k ∈ tokens, k.Legal) ∧
      cs = tokens.flatMap Token.chars ∧ template = templateOf read tokens
  | .label read, cs, template => ∃ (more : List Char) (tokens : List Token),
      (∀ c ∈ more, ¬ IsBrace c) ∧ (∃ c ∈ read.reverse ++ more, Text.isBlank c = false) ∧
      (∀ k ∈ tokens, k.Legal) ∧ cs = more ++ '\x7d' :: tokens.flatMap Token.chars ∧
      template = .ref (String.ofList (Text.trimList (read.reverse ++ more))) :: templateOf [] tokens

theorem map_eq_ok {f : Template → Template} {x : Except InlineError Template}
    (h : x.map f = .ok template) : ∃ inner, x = .ok inner ∧ template = f inner := by
  cases x with
  | ok inner =>
    cases h
    exact ⟨inner, rfl, rfl⟩
  | error e => cases h

/-- What is read in a place answers to what is spelled from there. -/
theorem answers_of_readFrom {place : Place} (h : readFrom place cs = .ok template) :
    place.Answers cs template := by
  -- The steps that read on add a character to the token at hand or begin a new one; the others fail.
  fun_induction readFrom place cs generalizing template with
  | case1 read =>
    cases h
    exact ⟨[], by simp, rfl, rfl⟩
  | case2 read rest ih | case4 read rest ih =>
    obtain ⟨tokens, legal, rfl, rfl⟩ := ih h
    refine ⟨.doubled _ :: tokens, List.forall_mem_cons.2 ⟨?_, legal⟩, rfl, rfl⟩
    first | exact .inl rfl | exact .inr rfl
  | case3 read rest single ih =>
    obtain ⟨inner, hinner, rfl⟩ := map_eq_ok h
    obtain ⟨cs, tokens, free, visible, legal, rfl, rfl⟩ := ih hinner
    refine ⟨.label cs :: tokens, List.forall_mem_cons.2 ⟨⟨free, visible⟩, legal⟩, ?_, rfl⟩
    simp [Token.chars]
  | case6 read c rest _ opens _ closes ih =>
    obtain ⟨tokens, legal, rfl, rfl⟩ := ih h
    exact ⟨.plain c :: tokens, List.forall_mem_cons.2 ⟨not_or.2 ⟨opens, closes⟩, legal⟩, rfl, rfl⟩
  | @case9 read rest label named ih =>
    obtain ⟨inner, hinner, rfl⟩ := map_eq_ok h
    obtain ⟨tokens, legal, rfl, rfl⟩ := ih hinner
    have visible : ∃ c ∈ read.reverse, Text.isBlank c = false := by
      by_contra blank
      simp only [not_exists, not_and, Bool.not_eq_false] at blank
      exact named (List.isEmpty_iff.2 (Text.trimList_eq_nil_iff.2 blank))
    exact ⟨[], tokens, by simp, by simpa using visible, legal, rfl, by rw [List.append_nil]⟩
  | case11 read c rest closes opens ih =>
    obtain ⟨more, tokens, free, visible, legal, rfl, rfl⟩ := ih h
    have joined : (c :: read).reverse ++ more = read.reverse ++ c :: more := by simp
    rw [joined] at visible ⊢
    exact ⟨c :: more, tokens, List.forall_mem_cons.2 ⟨not_or.2 ⟨opens, closes⟩, free⟩, visible, legal,
      rfl, rfl⟩
  | case5 | case7 | case8 | case10 => cases h

/-- Reading accepts the texts made of tokens, and answers what the tokens spell. -/
theorem read_eq_ok_iff {text : String} : Inline.read text = .ok template ↔
    ∃ tokens : List Token, (∀ k ∈ tokens, k.Legal) ∧ text.toList = tokens.flatMap Token.chars ∧
      template = templateOf [] tokens := by
  constructor
  · exact answers_of_readFrom
  · rintro ⟨tokens, legal, spelled, rfl⟩
    rw [Inline.read, spelled]
    exact readFrom_flatMap_chars legal

/-- A text is read exactly if it is spelled. -/
theorem exists_read_iff {text : String} :
    (∃ template, Inline.read text = .ok template) ↔ Spelled text := by
  simp only [read_eq_ok_iff]
  constructor
  · rintro ⟨template, tokens, legal, spelled, -⟩
    exact ⟨tokens, legal, spelled⟩
  · rintro ⟨tokens, legal, spelled⟩
    exact ⟨_, tokens, legal, spelled, rfl⟩

/-! ## Templates as reading answers them -/

def IsLiteral : Fragment → Prop
  | .literal _ => True
  | _ => False

/-- A literal that says something, or a plain reference with a trimmed label without braces. -/
def NormalPiece : Fragment → Prop
  | .literal text => text ≠ ""
  | .reference label legal =>
    legal = none ∧ label ≠ "" ∧ Text.trim label = label ∧ ∀ c ∈ label.toList, ¬ IsBrace c
  | _ => False

/-- A template of such pieces, no two literals one after the other. -/
structure Normal (template : Template) : Prop where
  pieces : ∀ f ∈ template, NormalPiece f
  apart : template.IsChain fun f g => ¬ (IsLiteral f ∧ IsLiteral g)

namespace Normal

theorem nil : Normal [] where
  pieces := by simp
  apart := .nil

theorem of_cons {f : Fragment} (h : Normal (f :: template)) : Normal template where
  pieces g hg := h.pieces g (List.mem_cons_of_mem f hg)
  apart := (List.isChain_cons.1 h.apart).2

theorem cons {f : Fragment} (h : Normal template) (piece : NormalPiece f)
    (apart : ∀ g ∈ template.head?, ¬ (IsLiteral f ∧ IsLiteral g)) : Normal (f :: template) where
  pieces := List.forall_mem_cons.2 ⟨piece, h.pieces⟩
  apart := List.isChain_cons.2 ⟨apart, h.apart⟩

/-- A literal in front of no other literal keeps the form normal. -/
theorem flush (h : Normal template) (begins : ∀ g ∈ template.head?, ¬ IsLiteral g) :
    Normal (flush read template) := by
  unfold Inline.flush
  split
  · exact h
  · next some =>
    refine h.cons ?_ fun g hg both => begins g hg both.2
    intro empty
    have nothing : read.reverse = [] := String.ofList_eq_empty_iff.1 empty
    exact some (List.isEmpty_iff.2 (List.reverse_eq_nil_iff.1 nothing))

end Normal

/-- A legal label reads as a reference that can be written again. -/
theorem normalPiece_label (legal : (Token.label cs).Legal) :
    NormalPiece (.ref (String.ofList (Text.trimList cs))) := by
  obtain ⟨free, c, hc, visible⟩ := legal
  refine ⟨rfl, ?_, ?_, ?_⟩
  · intro empty
    rw [Text.trimList_eq_nil_iff.1 (String.ofList_eq_empty_iff.1 empty) c hc] at visible
    cases visible
  · rw [Text.trim, String.toList_ofList, Text.trimList_trimList]
  · intro d hd
    rw [String.toList_ofList] at hd
    exact free d (Text.mem_of_mem_trimList hd)

/-- What tokens spell is normal, whatever text was read before. -/
theorem normal_templateOf (legal : ∀ k ∈ tokens, k.Legal) : Normal (templateOf read tokens) := by
  induction tokens generalizing read with
  | nil => exact Normal.nil.flush (by simp)
  | cons k tokens ih =>
    have later : ∀ k ∈ tokens, k.Legal := fun j hj => legal j (List.mem_cons_of_mem k hj)
    cases k with
    | plain c => exact ih later
    | doubled c => exact ih later
    | label cs =>
      have piece := normalPiece_label (legal _ List.mem_cons_self)
      refine Normal.flush ((ih later).cons piece ?_) ?_
      · exact fun _ _ both => both.1
      · intro g hg
        cases hg
        exact id

/-! ## Writing -/

/-- The token that stands for a character of a literal. -/
def tokenOf (c : Char) : Token :=
  if IsBrace c then .doubled c else .plain c

/-- The tokens that a piece is written as. -/
def pieceTokens : Fragment → List Token
  | .literal text => text.toList.map tokenOf
  | .reference label _ => [.label label.toList]
  | _ => []

theorem chars_tokenOf (c : Char) : (tokenOf c).chars = doubled c := by
  by_cases brace : IsBrace c
  · rw [tokenOf, if_pos brace]
    rcases brace with rfl | rfl <;> rfl
  · rw [tokenOf, if_neg brace, doubled, if_neg (by simpa [IsBrace] using brace)]
    rfl

/-- Each character has a spelling of its own. -/
theorem legal_tokenOf (c : Char) : (tokenOf c).Legal := by
  unfold tokenOf
  split <;> assumption

/-- Spelled characters add to the literal at hand. -/
theorem templateOf_map_tokenOf (cs : List Char) :
    templateOf read (cs.map tokenOf ++ tokens) = templateOf (cs.reverse ++ read) tokens := by
  induction cs generalizing read with
  | nil => rfl
  | cons c cs ih =>
    have first : templateOf read (tokenOf c :: (cs.map tokenOf ++ tokens)) =
        templateOf (c :: read) (cs.map tokenOf ++ tokens) := by
      unfold tokenOf
      split <;> rfl
    calc templateOf read ((c :: cs).map tokenOf ++ tokens)
        = templateOf (c :: read) (cs.map tokenOf ++ tokens) := first
      _ = templateOf (cs.reverse ++ c :: read) tokens := ih
      _ = templateOf ((c :: cs).reverse ++ read) tokens := by
          rw [List.reverse_cons, List.append_assoc, List.singleton_append]

namespace NormalPiece

variable {f : Fragment}

/-- A normal fragment is written by its tokens. -/
theorem writePiece_eq (h : NormalPiece f) :
    writePiece f = some ((pieceTokens f).flatMap Token.chars) := by
  cases f with
  | literal text =>
    have same : (text.toList.map tokenOf).flatMap Token.chars = text.toList.flatMap doubled := by
      simp only [List.flatMap_map, chars_tokenOf]
    exact congrArg some same.symm
  | reference label legal =>
    obtain ⟨rfl, -⟩ := h
    simp [writePiece, pieceTokens, Token.chars]
  | scope | series | line | indent | format | conditional => cases h

/-- All of them legal. -/
theorem legal_tokens (h : NormalPiece f) : ∀ k ∈ pieceTokens f, k.Legal := by
  cases f with
  | literal text =>
    intro k hk
    obtain ⟨c, -, rfl⟩ := List.mem_map.1 hk
    exact legal_tokenOf c
  | reference label legal =>
    obtain ⟨-, named, trimmed, free⟩ := h
    intro k hk
    rw [List.mem_singleton.1 hk]
    refine ⟨free, ?_⟩
    by_contra blank
    simp only [not_exists, not_and, Bool.not_eq_false] at blank
    apply named
    calc label = Text.trim label := trimmed.symm
      _ = String.ofList [] := by rw [Text.trim, Text.trimList_eq_nil_iff.2 blank]
      _ = "" := rfl
  | scope | series | line | indent | format | conditional => cases h

end NormalPiece

namespace Normal

/-- A normal template is written by the tokens of its fragments. -/
theorem write_eq (h : Normal template) : write template =
    some (String.ofList ((template.flatMap pieceTokens).flatMap Token.chars)) := by
  have written : template.mapM writePiece =
      some (template.map fun f => (pieceTokens f).flatMap Token.chars) := by
    induction template with
    | nil => rfl
    | cons f rest ih =>
      rw [List.mapM_cons, (h.pieces f List.mem_cons_self).writePiece_eq, ih h.of_cons]
      rfl
  rw [write, written, Option.map_some, List.flatMap_assoc, List.flatten_eq_flatMap, List.flatMap_map]
  rfl

/-- A text that was read becomes a literal in front of a template that does not begin with one. -/
theorem templateOf_flush (h : Normal template)
    (begins : ∀ g ∈ template.head?, ¬ IsLiteral g) :
    templateOf read (template.flatMap pieceTokens) =
      Inline.flush read (templateOf [] (template.flatMap pieceTokens)) := by
  cases template with
  | nil => rfl
  | cons f rest =>
    have piece := h.pieces f List.mem_cons_self
    cases f with
    | literal text => exact absurd trivial (begins _ rfl)
    | reference label legal => rfl
    | scope | series | line | indent | format | conditional => cases piece

/-- The tokens that a normal template is written as spell it. -/
theorem templateOf_tokens (h : Normal template) :
    templateOf [] (template.flatMap pieceTokens) = template := by
  induction template with
  | nil => rfl
  | cons f rest ih =>
    have spelled := ih h.of_cons
    have piece := h.pieces f List.mem_cons_self
    cases f with
    | literal text =>
      -- The literal ends here, since no other one follows it.
      have begins : ∀ g ∈ rest.head?, ¬ IsLiteral g := fun g hg literal =>
        (List.isChain_cons.1 h.apart).1 g hg ⟨trivial, literal⟩
      have some : (text.toList.reverse ++ []).isEmpty = false := by
        rw [List.isEmpty_eq_false_iff]
        intro empty
        exact piece (String.toList_eq_nil_iff.1 (by simpa using empty))
      calc templateOf [] ((Fragment.literal text :: rest).flatMap pieceTokens)
          = templateOf (text.toList.reverse ++ []) (rest.flatMap pieceTokens) :=
            templateOf_map_tokenOf text.toList
        _ = Inline.flush (text.toList.reverse ++ []) rest := by
            rw [h.of_cons.templateOf_flush begins, spelled]
        _ = .literal text :: rest := by
            simp only [Inline.flush, some, Bool.false_eq_true, if_false]
            simp
    | reference label legal =>
      obtain ⟨rfl, -, trimmed, -⟩ := piece
      calc templateOf [] ((Fragment.reference label none :: rest).flatMap pieceTokens)
          = .ref (Text.trim label) :: templateOf [] (rest.flatMap pieceTokens) := rfl
        _ = .reference label none :: rest := by rw [trimmed, spelled]; rfl
    | scope | series | line | indent | format | conditional => cases piece

/-- A normal template is read from what it is written as. -/
theorem read_write (h : Normal template) :
    ∃ text, write template = some text ∧ Inline.read text = .ok template := by
  refine ⟨_, h.write_eq, read_eq_ok_iff.2 ⟨template.flatMap pieceTokens, ?_, ?_, ?_⟩⟩
  · intro k hk
    obtain ⟨f, hf, among⟩ := List.mem_flatMap.1 hk
    exact (h.pieces f hf).legal_tokens k among
  · rw [String.toList_ofList]
  · exact h.templateOf_tokens.symm

end Normal

/-- Reading accepts what is spelled by tokens and nothing else, and answers normal templates. These are
read from what they are written as, so that reading what was written of a template that was read gives it
again. -/
theorem reads_what_is_spelled :
    (∀ text, (∃ template, Inline.read text = .ok template) ↔ Spelled text) ∧
    (∀ text template, Inline.read text = .ok template → Normal template) ∧
    (∀ template, Normal template →
      ∃ text, write template = some text ∧ Inline.read text = .ok template) ∧
    ∀ text template, Inline.read text = .ok template →
      ∃ again, write template = some again ∧ Inline.read again = Inline.read text := by
  have normal : ∀ text template, Inline.read text = .ok template → Normal template := by
    intro text template h
    obtain ⟨tokens, legal, -, rfl⟩ := read_eq_ok_iff.1 h
    exact normal_templateOf legal
  refine ⟨fun text => exists_read_iff, normal, fun template h => h.read_write, ?_⟩
  intro text template h
  obtain ⟨again, written, same⟩ := (normal text template h).read_write
  exact ⟨again, written, same.trans h.symm⟩

/-- Braces of all kinds in a row. -/
example : Inline.read "\x7b\x7b\x7ba\x7d\x7d\x7d" =
    .ok [.literal "\x7b", .ref "a", .literal "\x7d"] := by
  rfl

end Inline
end StoryLoom
