import StoryLoom.Proofs.Generation.Computation

/-!
# Pieces — templates of few pieces that give no name

- `Naming.mapM_eq_ok` : computations for the elements of a list, each answering by its place
- `resolveWith_cons`  : a template piece by piece
- `resolve_reference`, `resolve_reference_error` : the text of a single reference, or its failure
- `resolve_series`    : the text of a single series

Where no piece gives a name, the names before are those after, and each piece can be computed for itself.
-/

namespace StoryLoom

/-- A computation for each element of a list, which gives no name and answers by the place. -/
theorem Naming.mapM_eq_ok {α β : Type} {f : α → Naming β} {l : List α} {g : Nat → β} {n : Namer}
    (each : ∀ (place : Nat) (a : α), l[place]? = some a → f a n = .ok (g place) n) :
    l.mapM f n = .ok ((List.range l.length).map g) n := by
  induction l generalizing g with
  | nil => rfl
  | cons a rest ih =>
    -- In the rest, places count from one less.
    have others := ih (g := fun place => g (place + 1)) fun place b hb => each (place + 1) b hb
    rw [List.mapM_cons, Naming.bind_of_ok (each 0 a rfl), Naming.bind_of_ok others, List.length_cons,
      List.range_succ_eq_map, List.map_cons, List.map_map]
    rfl

section Pieces

variable {s : Setting} {expand : Expand} {c : Context} {f : Fragment} {rest : List Fragment}
  {label text others : String} {legal : Option String} {key : DataKey} {e : GenerationError} {n : Namer}

variable [PatternLibrary]

theorem resolveWith_nil : resolveWith s expand [] c n = .ok "" n := by
  rw [resolveWith]
  rfl

/-- Where the namer stays as it is, texts are put one after another. -/
theorem resolveWith_cons (first : resolveOne s expand f c n = .ok text n)
    (following : resolveWith s expand rest c n = .ok others n) :
    resolveWith s expand (f :: rest) c n = .ok (text ++ others) n := by
  rw [resolveWith, Naming.bind_of_ok (Naming.mapError_of_ok first), Naming.bind_of_ok following]
  rfl

theorem resolveOne_literal : resolveOne s expand (.literal text) c n = .ok text n := by
  rw [resolveOne]
  rfl

/-- A reference to a value that is a text. -/
theorem resolveOne_reference (known : DataKey.parse? label = some key)
    (valued : c.data s key legal n = .ok (.text text) n) :
    resolveOne s expand (.reference label legal) c n = .ok text n := by
  rw [resolveOne, resolveReference, known]
  exact Naming.bind_of_ok valued

/-- A reference on its own to a value that is a text. -/
theorem resolve_reference (known : DataKey.parse? label = some key)
    (valued : c.data s key legal n = .ok (.text text) n) :
    resolve s [.reference label legal] c n = .ok text n := by
  have whole : resolveWith s (resolveUpTo s (s.depthBound - 1)) [.reference label legal] c n =
      .ok (text ++ "") n := resolveWith_cons (resolveOne_reference known valued) resolveWith_nil
  rwa [String.append_empty] at whole

/-- A reference on its own to a value that fails. -/
theorem resolve_reference_error (known : DataKey.parse? label = some key)
    (failed : c.data s key legal n = .error e n) : resolve s [.reference label legal] c n =
      .error (e.inFragment (Fragment.reference label legal).describe) n := by
  have piece : resolveOne s (resolveUpTo s (s.depthBound - 1)) (.reference label legal) c n =
      .error e n := by
    rw [resolveOne, resolveReference, known]
    exact Naming.bind_of_error failed
  rw [resolve, show s.depthBound = s.depthBound - 1 + 1 from rfl, resolveUpTo, resolveWith]
  exact Naming.bind_of_error (Naming.mapError_of_error piece)

/-- A series on its own whose elements give no name, and a text by their place. -/
theorem resolve_series {source separator : String} {filter : SeriesFilter} {unique : Bool} {body : Template}
    {elements : List Element} {texts : Nat → String}
    (walked : seriesElements s c source filter unique
      (Fragment.series source separator filter unique body).describe = .ok elements)
    (each : ∀ (place : Nat) (element : Element), elements[place]? = some element →
      ∃ inner, c.enter s element = .ok inner ∧
        resolveWith s (resolveUpTo s (s.depthBound - 1)) body inner n = .ok (texts place) n) :
    resolve s [.series source separator filter unique body] c n =
      .ok (separator.intercalate ((List.range elements.length).map texts)) n := by
  have piece : resolveOne s (resolveUpTo s (s.depthBound - 1)) (.series source separator filter unique body)
      c n = .ok (separator.intercalate ((List.range elements.length).map texts)) n := by
    rw [resolveOne, walked]
    refine Naming.bind_of_ok (Naming.mapM_eq_ok fun place element here => ?_)
    obtain ⟨inner, entered, text⟩ := each place element here
    rw [entered]
    exact text
  -- The template has no further piece, so nothing is put behind the series.
  have whole : resolveWith s (resolveUpTo s (s.depthBound - 1))
      [.series source separator filter unique body] c n =
        .ok (separator.intercalate ((List.range elements.length).map texts) ++ "") n :=
    resolveWith_cons piece resolveWith_nil
  rwa [String.append_empty] at whole

end Pieces

end StoryLoom
