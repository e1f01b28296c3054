import Mathlib.Tactic.Choose
import StoryLoom.Generation.Pass
import StoryLoom.Proofs.Generation.Computation
import StoryLoom.Proofs.Generation.Indentation

/-!
# Presentation — texts as pieces with marks for the indentation

- `Piece`, `writeAll`    : fixed texts and marks, and what they say under an indentation
- `Naming.Presents`      : computations under all indentations that take one course
- `presents_resolveUpTo` : resolution is such a computation
- `indentation_is_presentation` : a template has one list of pieces, one failure and one set of names
- `indent_gives_same_names`     : a deeper body gives the same names and succeeds in the same cases
-/

namespace StoryLoom

/-! ## Pieces -/

/-- A piece of a text: a fixed text, or the indentation with some further levels. -/
inductive Piece
  | text (t : String)
  | mark (levels : Nat)
  deriving DecidableEq, Repr

namespace Piece

/-- So many levels of indentation. -/
def levels (unit : String) : Nat → String
  | 0 => ""
  | n + 1 => unit ++ levels unit n

/-- What a piece says under an indentation. -/
def written (unit indent : String) : Piece → String
  | text t => t
  | mark n => indent ++ levels unit n

def writeAll (unit indent : String) : List Piece → String
  | [] => ""
  | p :: rest => p.written unit indent ++ writeAll unit indent rest

def deeper : Piece → Piece
  | text t => text t
  | mark n => mark (n + 1)

variable (unit indent : String)

theorem writeAll_text (t : String) : writeAll unit indent [text t] = t := by
  simp [writeAll, written]

/-- Pieces are written one after another. -/
theorem writeAll_append (ps qs : List Piece) :
    writeAll unit indent (ps ++ qs) = writeAll unit indent ps ++ writeAll unit indent qs := by
  induction ps with
  | nil => simp [writeAll]
  | cons p rest ih => simp [writeAll, ih, String.append_assoc]

/-- Indenting a piece puts one unit in front of its lines. -/
theorem written_deeper (p : Piece) :
    p.deeper.written unit indent = p.written unit (indent ++ unit) := by
  cases p with
  | text t => rfl
  | mark n => exact (String.append_assoc ..).symm

/-- A level more in the pieces is a level more in the indentation. -/
theorem writeAll_deeper (ps : List Piece) :
    writeAll unit indent (ps.map deeper) = writeAll unit (indent ++ unit) ps := by
  induction ps with
  | nil => rfl
  | cons p rest ih => simp only [List.map_cons, writeAll, written_deeper, ih]

/-- A separator between lists of pieces is written between their texts. -/
theorem writeAll_intercalate (separator : String) (pss : List (List Piece)) :
    writeAll unit indent ([text separator].intercalate pss) =
      separator.intercalate (pss.map (writeAll unit indent)) := by
  induction pss with
  | nil => simp [writeAll]
  | cons ps rest ih =>
    cases rest with
    | nil => simp
    | cons qs rest =>
      rw [List.intercalate_cons_cons, writeAll_append, writeAll_append, ih, writeAll_text]
      simp only [List.map_cons, String.intercalate_cons_cons]

end Piece

/-! ## Computations under all indentations -/

namespace Naming

variable {α β γ δ : Type}

/-- The computations `x`, one for each indentation, take one course. What they yield is made from one
result by `shown`. -/
def Presents (shown : String → γ → β) (x : String → Naming β) : Prop :=
  ∃ y : Naming γ, ∀ i, x i = shown i <$> y

namespace Presents

variable {shown : String → γ → β} {shown' : String → δ → α} {x : String → Naming β} {unit : String}

theorem pure (a : γ) : Presents shown fun i => Pure.pure (shown i a) :=
  ⟨Pure.pure a, fun _ => (map_pure ..).symm⟩

theorem throw (e : GenerationError) : Presents shown fun _ => MonadExcept.throw e :=
  ⟨MonadExcept.throw e, fun _ => rfl⟩

/-- A text is what its pieces say. -/
theorem written {t : String → String} (ps : List Piece) (h : ∀ i, t i = Piece.writeAll unit i ps) :
    Presents (Piece.writeAll unit) fun i => Pure.pure (t i) := by
  simp only [h]
  exact .pure ps

theorem text (t : String) : Presents (Piece.writeAll unit) fun _ => Pure.pure t :=
  .written [.text t] fun i => (Piece.writeAll_text unit i t).symm

/-- A computation that the indentation has no part in. -/
theorem fixed (x : Naming β) : Presents (fun _ b => b) fun _ => x :=
  ⟨x, fun _ => (id_map x).symm⟩

/-- A second step may depend on the first through its pieces only. -/
theorem bind {f : String → β → Naming α} (hx : Presents shown x)
    (hf : ∀ a, Presents shown' fun i => f i (shown i a)) : Presents shown' fun i => x i >>= f i := by
  obtain ⟨y, hy⟩ := hx
  choose z hz using hf
  refine ⟨y >>= z, fun i => ?_⟩
  calc x i >>= f i
      = y >>= fun a => f i (shown i a) := by rw [hy i, bind_map_left]
    _ = y >>= fun a => shown' i <$> z a := bind_congr fun a => hz a i
    _ = shown' i <$> (y >>= z) := (map_bind ..).symm

theorem mapError (f : GenerationError → GenerationError) (hx : Presents shown x) :
    Presents shown fun i => Naming.mapError f (x i) := by
  obtain ⟨y, hy⟩ := hx
  refine ⟨Naming.mapError f y, fun i => ?_⟩
  change Naming.mapError f (x i) = _
  rw [hy i]
  funext n
  simp only [Naming.mapError, Functor.map, EStateM.map]
  cases y n <;> rfl

/-- One level more is one level more in every piece. -/
theorem deepen {x : String → Naming String} (hx : Presents (Piece.writeAll unit) x) :
    Presents (Piece.writeAll unit) fun i => x (i ++ unit) := by
  obtain ⟨y, hy⟩ := hx
  refine ⟨List.map Piece.deeper <$> y, fun i => ?_⟩
  calc x (i ++ unit)
      = Piece.writeAll unit (i ++ unit) <$> y := hy (i ++ unit)
    _ = (fun ps => Piece.writeAll unit i (ps.map Piece.deeper)) <$> y := by
        simp only [Piece.writeAll_deeper]
    _ = Piece.writeAll unit i <$> List.map Piece.deeper <$> y := (Functor.map_map _ _ y).symm

theorem ofExcept {y : Except GenerationError γ} {x : String → Except GenerationError β}
    (h : ∀ i, x i = y.map (shown i)) : Presents shown fun i => Naming.ofExcept (x i) := by
  refine ⟨Naming.ofExcept y, fun i => ?_⟩
  change Naming.ofExcept (x i) = _
  rw [h i]
  cases y <;> rfl

/-- A list of steps gives lists of pieces. -/
theorem mapM {f : String → δ → Naming β} (hf : ∀ d, Presents shown fun i => f i d) (l : List δ) :
    Presents (fun i => List.map (shown i)) fun i => l.mapM (f i) := by
  induction l with
  | nil => exact pure []
  | cons d rest ih =>
    simp only [List.mapM_cons]
    exact (hf d).bind fun a => ih.bind fun as => pure (a :: as)

end Presents
end Naming

/-! ## Templates -/

section Templates

open Naming

variable {s : Setting} {expand : Expand}

/-- Resolution by `expand` takes one course under all indentations. -/
def Expand.Presents (s : Setting) (expand : Expand) : Prop :=
  ∀ (c : Context) (template : Template),
    Naming.Presents (Piece.writeAll s.dictionary.indent) fun i => expand (c.withIndent i) template

theorem presents_resolveParts (hexpand : expand.Presents s) (ps : List Part) :
    Presents (Piece.writeAll s.dictionary.indent) fun i =>
      resolveParts expand (ps.map (Part.withIndent i)) := by
  induction ps with
  | nil => exact .pure []
  | cons p rest ih =>
    have entered : Presents Context.withIndent fun i =>
        Naming.ofExcept (p.context.map (Context.withIndent i)) := .ofExcept fun i => rfl
    refine entered.bind fun c => ?_
    refine (hexpand c p.template).bind fun first => ?_
    refine ih.bind fun others => ?_
    exact .written (first ++ others) fun i => (Piece.writeAll_append _ i first others).symm

theorem presents_resolveAnswer (hexpand : expand.Presents s) (a : Answer) :
    Presents (Piece.writeAll s.dictionary.indent) fun i =>
      resolveAnswer expand (a.withIndent i) := by
  cases a with
  | text t => exact .text t
  | parts ps => exact presents_resolveParts hexpand ps

theorem presents_resolveFormat (hexpand : expand.Presents s) (c : Context) (id : String)
    (onlyFor : Option FormatTarget) :
    Presents (Piece.writeAll s.dictionary.indent) fun i =>
      resolveFormat s expand (c.withIndent i) id onlyFor := by
  have target : ∀ i, (c.withIndent i).isTarget = c.isTarget := fun _ => rfl
  simp only [resolveFormat, target]
  by_cases meant : onlyFor.all c.isTarget = true
  · simp only [if_pos meant]
    cases s.dictionary.format? id with
    | none => exact .throw (.unknownFormat id)
    | some template => exact hexpand c template
  · simp only [if_neg meant]
    exact .pure []

variable [PatternLibrary]

theorem presents_resolveReference (hexpand : expand.Presents s) (c : Context) (label : String)
    (legal : Option String) :
    Presents (Piece.writeAll s.dictionary.indent) fun i =>
      resolveReference s expand (c.withIndent i) label legal := by
  unfold resolveReference
  cases DataKey.parse? label with
  | none => exact .throw (c.unsupported s label)
  | some key =>
    have fetched : Presents Answer.withIndent fun i => (c.withIndent i).data s key legal :=
      ⟨c.data s key legal, fun i => c.data_withIndent i key legal⟩
    exact fetched.bind fun a => presents_resolveAnswer hexpand a

/-! Bodies are part of their piece, so that the induction is on the template; all other templates go
through `expand`. -/

mutual

/-- A fragment gives one list of pieces for all indentations. -/
theorem presents_resolveOne (hexpand : expand.Presents s) (f : Fragment) (c : Context) :
    Presents (Piece.writeAll s.dictionary.indent) fun i =>
      resolveOne s expand f (c.withIndent i) := by
  cases f with
  | literal text =>
    simp only [resolveOne]
    exact .text text
  | reference label legal =>
    simp only [resolveOne]
    exact presents_resolveReference hexpand c label legal
  | scope label name body =>
    have entered : Presents Context.withIndent fun i =>
        Naming.ofExcept (enterScope s (c.withIndent i) label name) :=
      .ofExcept fun i => c.enterScope_withIndent i label name
    simp only [resolveOne]
    exact entered.bind fun inner => presents_resolveWith hexpand body inner
  | series source separator filter unique body =>
    simp only [resolveOne, Context.seriesElements_withIndent]
    refine Presents.bind (.fixed _) fun elements => ?_
    have walked : Presents (fun i => List.map (Piece.writeAll s.dictionary.indent i)) fun i =>
        elements.mapM (fun element => do
          let inner ← Naming.ofExcept ((c.withIndent i).enter s element)
          resolveWith s expand body inner) := by
      refine Presents.mapM (fun element => ?_) elements
      have entered : Presents Context.withIndent fun i =>
          Naming.ofExcept ((c.withIndent i).enter s element) :=
        .ofExcept fun i => c.enter_withIndent i element
      exact entered.bind fun inner => presents_resolveWith hexpand body inner
    refine walked.bind fun pss => ?_
    simp only [← Piece.writeAll_intercalate]
    exact .pure ([.text separator].intercalate pss)
  | line body =>
    simp only [resolveOne]
    refine (presents_resolveWith hexpand body c).bind fun ps => ?_
    -- A line writes its own indentation in front, and its text may hold further lines.
    exact .written (.mark 0 :: (ps ++ [.text s.dictionary.newline])) fun i => by
      simp [Piece.writeAll, Piece.writeAll_append, Piece.written, Piece.levels, Context.withIndent,
        String.append_assoc]
  | indent body =>
    simp only [resolveOne, Context.indented_withIndent]
    exact (presents_resolveWith hexpand body c).deepen
  | format id onlyFor =>
    simp only [resolveOne]
    exact presents_resolveFormat hexpand c id onlyFor
  | conditional condition body =>
    simp only [resolveOne, Context.conditionHolds_withIndent]
    refine Presents.bind (.fixed _) fun holds => ?_
    cases holds with
    | true =>
      refine (presents_resolveWith hexpand body c).bind fun ps => ?_
      exact .written (.mark 0 :: ps) fun i => by
        simp [Piece.writeAll, Piece.written, Piece.levels, Context.withIndent]
    | false => exact .pure []

/-- So does a template. -/
theorem presents_resolveWith (hexpand : expand.Presents s) (template : List Fragment)
    (c : Context) :
    Presents (Piece.writeAll s.dictionary.indent) fun i =>
      resolveWith s expand template (c.withIndent i) := by
  cases template with
  | nil =>
    simp only [resolveWith]
    exact .pure []
  | cons f rest =>
    have first := (presents_resolveOne hexpand f c).mapError (GenerationError.inFragment f.describe)
    simp only [resolveWith]
    refine first.bind fun ps => ?_
    refine (presents_resolveWith hexpand rest c).bind fun qs => ?_
    exact .written (ps ++ qs) fun i => (Piece.writeAll_append s.dictionary.indent i ps qs).symm

end

/-- So does resolving at any depth. -/
theorem presents_resolveUpTo (s : Setting) (depth : Nat) : Expand.Presents s (resolveUpTo s depth) := by
  induction depth with
  | zero => exact fun c template => .throw { problem := .endless }
  -- The templates inside this one have a smaller bound.
  | succ depth ih => exact fun c template => presents_resolveWith ih template c

end Templates

namespace Pass

variable [PatternLibrary] (p : Pass) (depth : Nat) (c : Context)

/-- A template takes one course under all indentations. -/
theorem run_withIndent (template : Template) :
    (∃ pieces after, ∀ i : String,
      p.run (resolveUpTo p.setting depth (c.withIndent i) template) =
        (.ok (Piece.writeAll p.setting.dictionary.indent i pieces), after)) ∨
    (∃ e after, ∀ i : String,
      p.run (resolveUpTo p.setting depth (c.withIndent i) template) = (.error e, after)) := by
  -- The pieces come from one computation that knows no indentation, so its outcome decides for all.
  obtain ⟨y, presented⟩ := presents_resolveUpTo p.setting depth c template
  have hy : ∀ i, resolveUpTo p.setting depth (c.withIndent i) template =
      Piece.writeAll p.setting.dictionary.indent i <$> y := presented
  cases result : y p.namer with
  | ok pieces namer =>
    refine .inl ⟨pieces, { p with namer := namer }, fun i => ?_⟩
    have done : resolveUpTo p.setting depth (c.withIndent i) template p.namer =
        .ok (Piece.writeAll p.setting.dictionary.indent i pieces) namer := by
      rw [hy i]
      simp only [Functor.map, EStateM.map, result]
    rw [run, done]
  | error e namer =>
    refine .inr ⟨e, { p with namer := namer }, fun i => ?_⟩
    have failed : resolveUpTo p.setting depth (c.withIndent i) template p.namer =
        .error e namer := by
      rw [hy i]
      simp only [Functor.map, EStateM.map, result]
    rw [run, failed]

/-- An indented body fares as the body does one level deeper. -/
theorem run_indent (body : Template) :
    let whole := p.run (resolveUpTo p.setting (depth + 1) c [.indent body])
    let inner := p.run (resolveUpTo p.setting (depth + 1) (c.indented p.setting) body)
    whole.2 = inner.2 ∧ whole.1.isOk = inner.1.isOk := by
  -- The template of an indented body has this piece only, with nothing behind it.
  have unfolded : resolveUpTo p.setting (depth + 1) c [.indent body] = (do
      let text ← Naming.mapError (GenerationError.inFragment (Fragment.indent body).describe)
        (resolveUpTo p.setting (depth + 1) (c.indented p.setting) body)
      let others ← pure ""
      return text ++ others) := by
    simp only [resolveUpTo, resolveWith, resolveOne]
  cases result : resolveUpTo p.setting (depth + 1) (c.indented p.setting) body p.namer with
  | ok text namer =>
    have done := Naming.bind_of_ok (f := fun text => (do
      let others ← pure ""
      return text ++ others : Naming String)) (Naming.mapError_of_ok
        (f := GenerationError.inFragment (Fragment.indent body).describe) result)
    rw [run, run, unfolded, done, result]
    exact ⟨rfl, rfl⟩
  | error e namer =>
    have failed := Naming.bind_of_error (f := fun text => (do
      let others ← pure ""
      return text ++ others : Naming String)) (Naming.mapError_of_error
        (f := GenerationError.inFragment (Fragment.indent body).describe) result)
    rw [run, run, unfolded, failed, result]
    exact ⟨rfl, rfl⟩

/-- Indentation is only presentation. At every bound on the depth of templates inside each other, a
template has one list of pieces, or one failure, for all indentations, and gives the same names under all
of them. As an indented body it gives the same names and succeeds in the same cases, and the same
conditions hold. -/
theorem indentation_is_presentation (template : Template) :
    ((∃ pieces after, ∀ i : String,
        p.run (resolveUpTo p.setting depth (c.withIndent i) template) =
          (.ok (Piece.writeAll p.setting.dictionary.indent i pieces), after)) ∨
      (∃ e after, ∀ i : String,
        p.run (resolveUpTo p.setting depth (c.withIndent i) template) = (.error e, after))) ∧
    ((p.run (resolveUpTo p.setting depth c [.indent template])).2 =
        (p.run (resolveUpTo p.setting depth c template)).2 ∧
      (p.run (resolveUpTo p.setting depth c [.indent template])).1.isOk =
        (p.run (resolveUpTo p.setting depth c template)).1.isOk) ∧
    ∀ (i : String) (condition : String),
      conditionHolds p.setting (c.withIndent i) condition = conditionHolds p.setting c condition := by
  have course := p.run_withIndent depth c template
  refine ⟨course, ?_, fun i condition => c.conditionHolds_withIndent i condition⟩
  cases depth with
  | zero => exact ⟨rfl, rfl⟩
  | succ depth =>
    obtain ⟨names, success⟩ := p.run_indent depth c template
    rw [names, success]
    -- The body is met under two of the indentations that it takes one course under.
    have deeper : c.indented p.setting = c.withIndent (c.indent ++ p.setting.dictionary.indent) := rfl
    rcases course with ⟨pieces, after, done⟩ | ⟨e, after, failed⟩
    · have plain := done c.indent
      rw [Context.withIndent_indent] at plain
      rw [deeper, done, plain]
      exact ⟨rfl, rfl⟩
    · have plain := failed c.indent
      rw [Context.withIndent_indent] at plain
      rw [deeper, failed, plain]
      exact ⟨rfl, rfl⟩

end Pass
end StoryLoom
