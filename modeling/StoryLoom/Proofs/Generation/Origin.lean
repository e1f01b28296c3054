import StoryLoom.Pattern.Compile
import StoryLoom.Proofs.Generation.Blame
import Mathlib.Logic.Relation

/-!
# Origin — the piece that an error arose in

- `Site`    : a piece that is about to be resolved
- `Reached` : the sites of a template, each after all pieces before it are resolved
- `Enters`  : the sites directly inside a site, in its body or in a template that it refers to
- `Refuses` : the errors that a piece raises of itself
- `errors_say_their_origin` : what errors say of where they arose

What encloses an error leaves it as it is once it notes a fragment, and the innermost piece notes its own
first. So the account of errors only has to follow the sites from the outside in.
-/

namespace StoryLoom

/-- The fragment that an error notes first stays. -/
theorem GenerationError.inFragment_inFragment (e : GenerationError) (inner outer : String) :
    (e.inFragment inner).inFragment outer = e.inFragment inner := by
  simp only [inFragment]
  cases e.fragment <;> rfl

/-- An error notes a fragment by a text that says something. -/
theorem Fragment.describe_ne_empty (f : Fragment) : f.describe ≠ "" := by
  unfold describe
  split <;> simp only [ne_eq, String.append_eq_empty_iff, String.reduceEq, false_and, not_false_eq_true]

/-- And a context by one. -/
theorem Context.describe_ne_empty (s : Setting) (c : Context) : c.describe s ≠ "" := by
  unfold describe Focus.describe
  split <;> simp only [ne_eq, String.append_eq_empty_iff, String.reduceEq, false_and, and_false,
    not_false_eq_true]

/-! ## Lists of templates -/

namespace Naming

variable {α β : Type} {f : α → Naming β} {l : List α} {n next : Namer} {e : GenerationError}

theorem ofExcept_ok_bind (a : α) : ofExcept (.ok a) >>= f = f a :=
  pure_bind a f

/-- A computation for each element fails at one of them, after those before. -/
theorem exists_of_mapM_error (failed : l.mapM f n = .error e next) :
    ∃ before a after bs middle, l = before ++ a :: after ∧ before.mapM f n = .ok bs middle ∧
      f a middle = .error e next := by
  induction l generalizing n with
  | nil => cases failed
  | cons a rest ih =>
    rw [List.mapM_cons] at failed
    rcases bind_eq_error_iff.1 failed with here | ⟨b, middle, done, later⟩
    · exact ⟨[], a, rest, [], n, rfl, rfl, here⟩
    · rcases bind_eq_error_iff.1 later with later | ⟨bs, _, _, answered⟩
      · obtain ⟨before, a', after, bs, middle', rfl, done', there⟩ := ih later
        refine ⟨a :: before, a', after, b :: bs, middle', rfl, ?_, there⟩
        rw [List.mapM_cons, bind_of_ok done, bind_of_ok done']
        rfl
      · cases answered

/-- A list of steps stops at its first failure. -/
theorem mapM_error {before after : List α} {a : α} {bs : List β} {middle : Namer}
    (done : before.mapM f n = .ok bs middle) (failed : f a middle = .error e next) :
    (before ++ a :: after).mapM f n = .error e next := by
  rw [List.mapM_append, bind_of_ok done, List.mapM_cons]
  exact bind_of_error (bind_of_error failed)

end Naming

/-- The text of one of the templates that a value is made from. -/
def partText (expand : Expand) (p : Part) : Naming String := do
  let inner ← Naming.ofExcept p.context
  expand inner p.template

/-- The parts of an answer are resolved in order and joined. -/
theorem resolveParts_eq_mapM (expand : Expand) (ps : List Part) :
    resolveParts expand ps = do return String.join (← ps.mapM (partText expand)) := by
  induction ps with
  | nil => rfl
  | cons p rest ih =>
    rw [resolveParts, ih, List.mapM_cons]
    simp only [partText, bind_assoc, pure_bind, String.join_cons]

/-! ## Sites -/

/-- A piece that is about to be resolved: how many templates may be inside each other from here on, the
context, and the names given so far. -/
structure Site where
  room : Nat
  piece : Fragment
  context : Context
  names : Namer

section Sites

variable [PatternLibrary]

/-- The text of the body of a series for an element. -/
def elementText (s : Setting) (expand : Expand) (c : Context) (body : Template) (element : Element) :
    Naming String := do
  let inner ← Naming.ofExcept (c.enter s element)
  resolveWith s expand body inner

namespace Site

/-- The text of the piece, or the error it ends with. -/
def result (s : Setting) (x : Site) : EStateM.Result GenerationError Namer String :=
  resolveOne s (resolveUpTo s x.room) x.piece x.context x.names

/-- The same with the error as the template sees it. -/
def noted (s : Setting) (x : Site) : EStateM.Result GenerationError Namer String :=
  Naming.mapError (GenerationError.inFragment x.piece.describe)
    (resolveOne s (resolveUpTo s x.room) x.piece x.context) x.names

/-- The sites of a template: its first piece, and after a piece that is resolved those of the rest. -/
inductive Reached (s : Setting) (room : Nat) (c : Context) : Template → Namer → Site → Prop
  | here {f : Fragment} {rest : Template} {n : Namer} : Reached s room c (f :: rest) n ⟨room, f, c, n⟩
  | after {f : Fragment} {rest : Template} {n next : Namer} {text : String} {x : Site}
      (done : resolveOne s (resolveUpTo s room) f c n = .ok text next) (later : Reached s room c rest next x) :
      Reached s room c (f :: rest) n x

/-- The sites directly inside a site. -/
inductive Enters (s : Setting) : Site → Site → Prop
  | scope {room : Nat} {label : String} {name : Option String} {body : Template} {c inner : Context}
      {n : Namer} {x : Site} (entered : enterScope s c label name = .ok inner)
      (reached : Reached s room inner body n x) : Enters s ⟨room, .scope label name body, c, n⟩ x
  /-- The body of a series, after those of the elements before. -/
  | series {room : Nat} {source separator : String} {filter : SeriesFilter} {unique : Bool}
      {body : Template} {c inner : Context} {n next : Namer} {before after : List Element}
      {element : Element} {texts : List String} {x : Site}
      (walked : seriesElements s c source filter unique
        (Fragment.series source separator filter unique body).describe = .ok (before ++ element :: after))
      (done : before.mapM (elementText s (resolveUpTo s room) c body) n = .ok texts next)
      (entered : c.enter s element = .ok inner) (reached : Reached s room inner body next x) :
      Enters s ⟨room, .series source separator filter unique body, c, n⟩ x
  | line {room : Nat} {body : Template} {c : Context} {n : Namer} {x : Site}
      (reached : Reached s room c body n x) : Enters s ⟨room, .line body, c, n⟩ x
  | indent {room : Nat} {body : Template} {c : Context} {n : Namer} {x : Site}
      (reached : Reached s room (c.indented s) body n x) : Enters s ⟨room, .indent body, c, n⟩ x
  | conditional {room : Nat} {condition : String} {body : Template} {c : Context} {n : Namer} {x : Site}
      (holds : conditionHolds s c condition = .ok true) (reached : Reached s room c body n x) :
      Enters s ⟨room, .conditional condition body, c, n⟩ x
  | format {room : Nat} {id : String} {onlyFor : Option FormatTarget} {template : Template} {c : Context}
      {n : Namer} {x : Site} (applies : onlyFor.all c.isTarget = true)
      (known : s.dictionary.format? id = some template) (reached : Reached s room c template n x) :
      Enters s ⟨room + 1, .format id onlyFor, c, n⟩ x
  /-- A template that a value is made from, after those before. -/
  | reference {room : Nat} {label : String} {legal : Option String} {key : DataKey} {c inner : Context}
      {n middle next : Namer} {before after : List Part} {p : Part} {texts : List String} {x : Site}
      (known : DataKey.parse? label = some key)
      (valued : c.data s key legal n = .ok (.parts (before ++ p :: after)) middle)
      (done : before.mapM (partText (resolveUpTo s (room + 1))) middle = .ok texts next)
      (entered : p.context = .ok inner) (reached : Reached s room inner p.template next x) :
      Enters s ⟨room + 1, .reference label legal, c, n⟩ x

/-- The errors that a piece raises of itself, and the names given by then. -/
inductive Refuses (s : Setting) : Site → GenerationError → Namer → Prop
  | label {room : Nat} {label : String} {legal : Option String} {c : Context} {n : Namer}
      (unknown : DataKey.parse? label = none) :
      Refuses s ⟨room, .reference label legal, c, n⟩ (c.unsupported s label) n
  | value {room : Nat} {label : String} {legal : Option String} {key : DataKey} {c : Context}
      {n next : Namer} {e : GenerationError} (known : DataKey.parse? label = some key)
      (failed : c.data s key legal n = .error e next) :
      Refuses s ⟨room, .reference label legal, c, n⟩ e next
  /-- A context that a value is made in cannot be entered. -/
  | part {room : Nat} {label : String} {legal : Option String} {key : DataKey} {c : Context}
      {n middle next : Namer} {before after : List Part} {p : Part} {texts : List String} {e : GenerationError}
      (known : DataKey.parse? label = some key)
      (valued : c.data s key legal n = .ok (.parts (before ++ p :: after)) middle)
      (done : before.mapM (partText (resolveUpTo s room)) middle = .ok texts next)
      (failed : p.context = .error e) : Refuses s ⟨room, .reference label legal, c, n⟩ e next
  /-- No more templates may be inside each other. -/
  | partTooDeep {label : String} {legal : Option String} {key : DataKey} {c inner : Context}
      {n middle next : Namer} {before after : List Part} {p : Part} {texts : List String}
      (known : DataKey.parse? label = some key)
      (valued : c.data s key legal n = .ok (.parts (before ++ p :: after)) middle)
      (done : before.mapM (partText (resolveUpTo s 0)) middle = .ok texts next)
      (entered : p.context = .ok inner) :
      Refuses s ⟨0, .reference label legal, c, n⟩ { problem := .endless } next
  | scope {room : Nat} {label : String} {name : Option String} {body : Template} {c : Context}
      {n : Namer} {e : GenerationError} (failed : enterScope s c label name = .error e) :
      Refuses s ⟨room, .scope label name body, c, n⟩ e n
  | series {room : Nat} {source separator : String} {filter : SeriesFilter} {unique : Bool}
      {body : Template} {c : Context} {n : Namer} {e : GenerationError}
      (failed : seriesElements s c source filter unique
        (Fragment.series source separator filter unique body).describe = .error e) :
      Refuses s ⟨room, .series source separator filter unique body, c, n⟩ e n
  /-- An element of a series does not exist. -/
  | element {room : Nat} {source separator : String} {filter : SeriesFilter} {unique : Bool}
      {body : Template} {c : Context} {n next : Namer} {before after : List Element} {element : Element}
      {texts : List String} {e : GenerationError}
      (walked : seriesElements s c source filter unique
        (Fragment.series source separator filter unique body).describe = .ok (before ++ element :: after))
      (done : before.mapM (elementText s (resolveUpTo s room) c body) n = .ok texts next)
      (failed : c.enter s element = .error e) :
      Refuses s ⟨room, .series source separator filter unique body, c, n⟩ e next
  | conditional {room : Nat} {condition : String} {body : Template} {c : Context} {n : Namer}
      {e : GenerationError} (failed : conditionHolds s c condition = .error e) :
      Refuses s ⟨room, .conditional condition body, c, n⟩ e n
  | format {room : Nat} {id : String} {onlyFor : Option FormatTarget} {c : Context} {n : Namer}
      (applies : onlyFor.all c.isTarget = true) (unknown : s.dictionary.format? id = none) :
      Refuses s ⟨room, .format id onlyFor, c, n⟩ (.unknownFormat id) n
  | formatTooDeep {id : String} {onlyFor : Option FormatTarget} {template : Template} {c : Context}
      {n : Namer} (applies : onlyFor.all c.isTarget = true) (known : s.dictionary.format? id = some template) :
      Refuses s ⟨0, .format id onlyFor, c, n⟩ { problem := .endless } n

end Site

namespace Site

variable {s : Setting} {room : Nat} {c : Context} {template : Template} {n next : Namer}
  {e : GenerationError} {x y : Site}

/-! ## From a site to those inside -/

/-- A template fails at one of its sites. -/
theorem resolveWith_error_iff : resolveWith s (resolveUpTo s room) template c n = .error e next ↔
    ∃ x, Reached s room c template n x ∧ x.noted s = .error e next := by
  constructor
  · intro failed
    -- The induction is on the template, with the names given by its first pieces carried along.
    induction template generalizing n with
    | nil => cases failed
    | cons f rest ih =>
      rw [resolveWith] at failed
      rcases Naming.bind_eq_error_iff.1 failed with here | ⟨text, middle, done, later⟩
      · exact ⟨⟨room, f, c, n⟩, .here, here⟩
      · rcases Naming.bind_eq_error_iff.1 later with later | ⟨_, _, _, answered⟩
        · obtain ⟨x, reached, there⟩ := ih later
          exact ⟨x, .after (Naming.mapError_eq_ok_iff.1 done) reached, there⟩
        · cases answered
  · rintro ⟨x, reached, failed⟩
    induction reached with
    | here =>
      rw [resolveWith]
      exact Naming.bind_of_error failed
    | after done later ih =>
      rw [resolveWith, Naming.bind_of_ok (Naming.mapError_of_ok done)]
      exact Naming.bind_of_error (ih failed)

/-- A series fails at an element, after those before. -/
theorem result_of_element {source separator : String} {filter : SeriesFilter} {unique : Bool}
    {body : Template} {middle : Namer} {before after : List Element} {element : Element} {texts : List String}
    (walked : seriesElements s c source filter unique
      (Fragment.series source separator filter unique body).describe = .ok (before ++ element :: after))
    (done : before.mapM (elementText s (resolveUpTo s room) c body) n = .ok texts middle)
    (failed : elementText s (resolveUpTo s room) c body element middle = .error e next) :
    result s ⟨room, .series source separator filter unique body, c, n⟩ = .error e next := by
  rw [result, resolveOne, walked, Naming.ofExcept_ok_bind]
  exact Naming.bind_of_error (Naming.mapM_error done failed)

/-- A value fails at a template that it is made from, after those before. -/
theorem result_of_part {label : String} {legal : Option String} {key : DataKey} {start middle : Namer}
    {before after : List Part} {p : Part} {texts : List String} (known : DataKey.parse? label = some key)
    (valued : c.data s key legal n = .ok (.parts (before ++ p :: after)) start)
    (done : before.mapM (partText (resolveUpTo s room)) start = .ok texts middle)
    (failed : partText (resolveUpTo s room) p middle = .error e next) :
    result s ⟨room, .reference label legal, c, n⟩ = .error e next := by
  rw [result, resolveOne, resolveReference, known]
  refine (Naming.bind_of_ok valued).trans ?_
  rw [resolveAnswer, resolveParts_eq_mapM]
  exact Naming.bind_of_error (Naming.mapM_error done failed)

/-- Where a piece refuses, its own error is the result. -/
theorem result_of_refuses (refused : Refuses s x e next) : x.result s = .error e next := by
  cases refused with
  | label unknown =>
    rw [result, resolveOne, resolveReference, unknown]
    rfl
  | value known failed =>
    rw [result, resolveOne, resolveReference, known]
    exact Naming.bind_of_error failed
  | part known valued done failed =>
    -- The context of a template is entered only when its turn comes.
    refine result_of_part known valued done ?_
    rw [partText, failed]
    rfl
  | partTooDeep known valued done entered =>
    refine result_of_part known valued done ?_
    rw [partText, entered]
    rfl
  | scope failed =>
    rw [result, resolveOne, failed]
    rfl
  | series failed =>
    rw [result, resolveOne, failed]
    rfl
  | element walked done failed =>
    refine result_of_element walked done ?_
    rw [elementText, failed]
    rfl
  | conditional failed =>
    rw [result, resolveOne, failed]
    rfl
  | format applies unknown =>
    rw [result, resolveOne, resolveFormat, if_pos applies, unknown]
    rfl
  | formatTooDeep applies known =>
    rw [result, resolveOne, resolveFormat, if_pos applies, known]
    rfl

/-- Where a piece fails in one it entered, that error is the result. -/
theorem result_of_enters (enters : Enters s x y) (failed : y.noted s = .error e next) :
    x.result s = .error e next := by
  cases enters with
  | scope entered reached =>
    rw [result, resolveOne, entered]
    exact resolveWith_error_iff.2 ⟨y, reached, failed⟩
  | series walked done entered reached =>
    refine result_of_element walked done ?_
    rw [elementText, entered]
    exact resolveWith_error_iff.2 ⟨y, reached, failed⟩
  | line reached =>
    rw [result, resolveOne]
    exact Naming.bind_of_error (resolveWith_error_iff.2 ⟨y, reached, failed⟩)
  | indent reached =>
    rw [result, resolveOne]
    exact resolveWith_error_iff.2 ⟨y, reached, failed⟩
  | conditional holds reached =>
    rw [result, resolveOne, holds, Naming.ofExcept_ok_bind, if_pos rfl]
    exact Naming.bind_of_error (resolveWith_error_iff.2 ⟨y, reached, failed⟩)
  | format applies known reached =>
    rw [result, resolveOne, resolveFormat, if_pos applies, known]
    exact resolveWith_error_iff.2 ⟨y, reached, failed⟩
  | reference known valued done entered reached =>
    refine result_of_part known valued done ?_
    rw [partText, entered]
    exact resolveWith_error_iff.2 ⟨y, reached, failed⟩

/-- A reference fails by itself or in a template of its answer. -/
theorem reference_refuses_or_enters {label : String} {legal : Option String}
    (failed : result s ⟨room, .reference label legal, c, n⟩ = .error e next) :
    Refuses s ⟨room, .reference label legal, c, n⟩ e next ∨
      ∃ y, Enters s ⟨room, .reference label legal, c, n⟩ y ∧ y.noted s = .error e next := by
  rw [result, resolveOne, resolveReference] at failed
  cases known : DataKey.parse? label with
  | none =>
    rw [known] at failed
    cases failed
    exact .inl (.label known)
  | some key =>
    rw [known] at failed
    rcases Naming.bind_eq_error_iff.1 failed with failed | ⟨a, start, valued, failed⟩
    · exact .inl (.value known failed)
    · cases a with
      | text t => cases failed
      | parts ps =>
        rw [resolveAnswer, resolveParts_eq_mapM] at failed
        rcases Naming.bind_eq_error_iff.1 failed with failed | ⟨_, _, _, answered⟩
        · obtain ⟨before, p, after, texts, middle, rfl, done, here⟩ := Naming.exists_of_mapM_error failed
          cases entered : p.context with
          | error e' =>
            rw [partText, entered] at here
            cases here
            exact .inl (.part known valued done entered)
          | ok inner =>
            rw [partText, entered, Naming.ofExcept_ok_bind] at here
            -- Without room the template is not resolved at all.
            cases room with
            | zero =>
              cases here
              exact .inl (.partTooDeep known valued done entered)
            | succ room =>
              obtain ⟨y, reached, there⟩ := resolveWith_error_iff.1 here
              exact .inr ⟨y, .reference known valued done entered reached, there⟩
        · cases answered

/-- A series fails by itself or in its body, for some element. -/
theorem series_refuses_or_enters {source separator : String} {filter : SeriesFilter} {unique : Bool}
    {body : Template}
    (failed : result s ⟨room, .series source separator filter unique body, c, n⟩ = .error e next) :
    Refuses s ⟨room, .series source separator filter unique body, c, n⟩ e next ∨
      ∃ y, Enters s ⟨room, .series source separator filter unique body, c, n⟩ y ∧
        y.noted s = .error e next := by
  rw [result, resolveOne] at failed
  -- A series fails before its elements, where it enters one, or in the body for one.
  cases walked : seriesElements s c source filter unique
      (Fragment.series source separator filter unique body).describe with
  | error e' =>
    rw [walked] at failed
    cases failed
    exact .inl (.series walked)
  | ok elements =>
    rw [walked, Naming.ofExcept_ok_bind] at failed
    rcases Naming.bind_eq_error_iff.1 failed with failed | ⟨_, _, _, answered⟩
    · obtain ⟨before, element, after, texts, middle, rfl, done, here⟩ := Naming.exists_of_mapM_error failed
      cases entered : c.enter s element with
      | error e' =>
        rw [entered] at here
        cases here
        exact .inl (.element walked done entered)
      | ok inner =>
        rw [entered, Naming.ofExcept_ok_bind] at here
        obtain ⟨y, reached, there⟩ := resolveWith_error_iff.1 here
        exact .inr ⟨y, .series walked done entered reached, there⟩
    · cases answered

/-- A format fails by itself or in the format it names. -/
theorem format_refuses_or_enters {id : String} {onlyFor : Option FormatTarget}
    (failed : result s ⟨room, .format id onlyFor, c, n⟩ = .error e next) :
    Refuses s ⟨room, .format id onlyFor, c, n⟩ e next ∨
      ∃ y, Enters s ⟨room, .format id onlyFor, c, n⟩ y ∧ y.noted s = .error e next := by
  rw [result, resolveOne, resolveFormat] at failed
  by_cases applies : onlyFor.all c.isTarget = true
  · rw [if_pos applies] at failed
    cases known : s.dictionary.format? id with
    | none =>
      rw [known] at failed
      cases failed
      exact .inl (.format applies known)
    | some template =>
      rw [known] at failed
      cases room with
      | zero =>
        cases failed
        exact .inl (.formatTooDeep applies known)
      | succ room =>
        obtain ⟨y, reached, there⟩ := resolveWith_error_iff.1 failed
        exact .inr ⟨y, .format applies known reached, there⟩
  · rw [if_neg applies] at failed
    cases failed

/-- A conditional fails by itself or in its body. -/
theorem conditional_refuses_or_enters {condition : String} {body : Template}
    (failed : result s ⟨room, .conditional condition body, c, n⟩ = .error e next) :
    Refuses s ⟨room, .conditional condition body, c, n⟩ e next ∨
      ∃ y, Enters s ⟨room, .conditional condition body, c, n⟩ y ∧ y.noted s = .error e next := by
  rw [result, resolveOne] at failed
  cases holds : conditionHolds s c condition with
  | error e' =>
    rw [holds] at failed
    cases failed
    exact .inl (.conditional holds)
  | ok fact =>
    rw [holds, Naming.ofExcept_ok_bind] at failed
    cases fact with
    | false => cases failed
    | true =>
      rw [if_pos rfl] at failed
      rcases Naming.bind_eq_error_iff.1 failed with failed | ⟨_, _, _, answered⟩
      · obtain ⟨y, reached, there⟩ := resolveWith_error_iff.1 failed
        exact .inr ⟨y, .conditional holds reached, there⟩
      · cases answered

/-- A piece fails of itself, or at a site inside it. -/
theorem refuses_or_enters (failed : x.result s = .error e next) :
    Refuses s x e next ∨ ∃ y, Enters s x y ∧ y.noted s = .error e next := by
  obtain ⟨room, f, c, n⟩ := x
  cases f with
  | literal text =>
    rw [result, resolveOne] at failed
    cases failed
  | reference label legal => exact reference_refuses_or_enters failed
  | scope label name body =>
    rw [result, resolveOne] at failed
    cases entered : enterScope s c label name with
    | error e' =>
      rw [entered] at failed
      cases failed
      exact .inl (.scope entered)
    | ok inner =>
      rw [entered, Naming.ofExcept_ok_bind] at failed
      obtain ⟨y, reached, there⟩ := resolveWith_error_iff.1 failed
      exact .inr ⟨y, .scope entered reached, there⟩
  | series source separator filter unique body => exact series_refuses_or_enters failed
  | line body =>
    rw [result, resolveOne] at failed
    rcases Naming.bind_eq_error_iff.1 failed with failed | ⟨_, _, _, answered⟩
    · obtain ⟨y, reached, there⟩ := resolveWith_error_iff.1 failed
      exact .inr ⟨y, .line reached, there⟩
    · cases answered
  | indent body =>
    rw [result, resolveOne] at failed
    obtain ⟨y, reached, there⟩ := resolveWith_error_iff.1 failed
    exact .inr ⟨y, .indent reached, there⟩
  | format id onlyFor => exact format_refuses_or_enters failed
  | conditional condition body => exact conditional_refuses_or_enters failed

/-! ## From the outside in -/

/-- A piece reached in a template is one of its fragments, with as much room. -/
theorem Reached.room_eq_and_mem (reached : Reached s room c template n x) :
    x.room = room ∧ x.piece ∈ template := by
  induction reached with
  | here => exact ⟨rfl, List.mem_cons_self⟩
  | after done later ih => exact ⟨ih.1, List.mem_cons_of_mem _ ih.2⟩

/-- A fragment is smaller than its template, which ends the descent. -/
theorem Reached.sizeOf_lt (reached : Reached s room c template n x) :
    x.room = room ∧ sizeOf x.piece < sizeOf template := by
  obtain ⟨same, among⟩ := reached.room_eq_and_mem
  exact ⟨same, List.sizeOf_lt_of_mem among⟩

/-- Inside a site there is less room, or as much for a smaller piece. -/
theorem Enters.decreases (enters : Enters s x y) :
    y.room < x.room ∨ y.room = x.room ∧ sizeOf y.piece < sizeOf x.piece := by
  cases enters with
  | scope entered reached | series walked done entered reached | line reached | indent reached
  | conditional holds reached =>
    obtain ⟨same, smaller⟩ := reached.sizeOf_lt
    refine .inr ⟨same, Nat.lt_trans smaller ?_⟩
    simp only [Fragment.scope.sizeOf_spec, Fragment.series.sizeOf_spec, Fragment.line.sizeOf_spec,
      Fragment.indent.sizeOf_spec, Fragment.conditional.sizeOf_spec]
    omega
  | format applies known reached | reference known valued done entered reached =>
    obtain ⟨same, -⟩ := reached.sizeOf_lt
    exact .inl (same ▸ Nat.lt_succ_self _)

/-- A failing piece notes itself, unless one inside did before. -/
theorem noted_of_result (failed : x.result s = .error e next) :
    x.noted s = .error (e.inFragment x.piece.describe) next :=
  Naming.mapError_of_error failed

/-- The error of a site is one that a site inside it, or the site itself, raises of itself. It notes the
piece of that site. -/
theorem exists_of_noted_error (x : Site) (e : GenerationError) (failed : x.noted s = .error e next) :
    ∃ last cause, Relation.ReflTransGen (Enters s) x last ∧ Refuses s last cause next ∧
      e = cause.inFragment last.piece.describe := by
  obtain ⟨raised, here, noted⟩ := Naming.mapError_eq_error_iff.1 failed
  rcases refuses_or_enters here with refused | ⟨y, enters, there⟩
  · exact ⟨x, raised, .refl, refused, noted.symm⟩
  · -- The recursion follows the run inward: to smaller pieces, and to templates with less room.
    have smaller := enters.decreases
    obtain ⟨last, cause, trail, refused, inside⟩ := exists_of_noted_error y raised there
    refine ⟨last, cause, .head enters trail, refused, ?_⟩
    -- The site outside leaves the fragment as it is noted inside.
    rw [← noted, inside, GenerationError.inFragment_inFragment]
termination_by (x.room, sizeOf x.piece)
decreasing_by
  rcases smaller with less | ⟨same, smaller⟩
  · exact Prod.Lex.left _ _ less
  · rw [same]
    exact Prod.Lex.right _ smaller

/-- What a site inside raises of itself, all sites around it end with. -/
theorem noted_of_trail {last : Site} {cause : GenerationError}
    (trail : Relation.ReflTransGen (Enters s) x last) (refused : Refuses s last cause next) :
    x.noted s = .error (cause.inFragment last.piece.describe) next := by
  induction trail using Relation.ReflTransGen.head_induction_on with
  | refl => exact noted_of_result (result_of_refuses refused)
  | head enters trail ih =>
    -- The site outside would note its own piece, were there none noted.
    have here := noted_of_result (result_of_enters enters ih)
    rwa [GenerationError.inFragment_inFragment] at here

/-! ## Errors that pieces raise of themselves -/

/-- A piece raises the failure of a lookup, among them that of the elements of a series, that there is no
room, or that the context whose name it asked for gets none. -/
theorem Refuses.cause_cases (refused : Refuses s x e next) :
    e.OfLookup none ∨
      (∃ source separator filter unique body, x.piece = .series source separator filter unique body ∧
        seriesElements s x.context source filter unique x.piece.describe = .error e) ∨
      e = { problem := .endless } ∨
      ∃ label legal key q cause, x.piece = .reference label legal ∧ DataKey.parse? label = some key ∧
        x.context.AsksName s key q ∧ e = ⟨.namesExhausted cause (some (q.describe s)), none⟩ ∧
        q.name s legal x.names = .error e next := by
  cases refused with
  | label unknown => exact .inl (by simp)
  | @value room label legal key c n _ _ known failed =>
    rcases Context.data_fails_or_around (s := s) legal c key with ⟨e', missed, fails⟩ | around
    · -- The story point around the context was asked for and is missing, which is a failed lookup.
      rw [fails] at failed
      cases failed
      exact .inl (c.plain_storyPoint e missed)
    · rcases (Context.blames_data legal c around).error n e next failed with inward | ⟨q, cause, asks, rest⟩
      · exact .inl inward.1
      · exact .inr (.inr (.inr ⟨label, legal, key, q, cause, rfl, known, asks, rest⟩))
  | @part room label legal key c n middle _ before after p _ _ known valued done failed =>
    rcases Context.data_fails_or_around (s := s) legal c key with ⟨e', missed, fails⟩ | around
    · rw [fails] at valued
      cases valued
    · have parts := (Context.blames_data legal c around).ok n _ middle valued
      obtain ⟨inward, -⟩ := parts p (List.mem_append_right _ List.mem_cons_self)
      exact .inl (inward e failed).1
  | partTooDeep known valued done entered => exact .inr (.inr (.inl rfl))
  | scope failed => exact .inl (plain_enterScope s _ _ _ e failed)
  | series failed => exact .inr (.inl ⟨_, _, _, _, _, rfl, failed⟩)
  | element walked done failed => exact .inl (Context.plain_enter _ _ e failed)
  | conditional failed => exact .inl (plain_conditionHolds s _ _ e failed)
  | format applies unknown => exact .inl (by simp)
  | formatTooDeep applies known => exact .inr (.inr (.inl rfl))

/-- An error that a piece raises of itself notes the piece. -/
theorem Refuses.inFragment (refused : Refuses s x e next) :
    e.inFragment x.piece.describe = ⟨e.problem, some x.piece.describe⟩ := by
  have noted : e.fragment = none ∨ e.fragment = some x.piece.describe := by
    rcases refused.cause_cases with
      plain | ⟨_, _, _, _, _, _, failed⟩ | rfl | ⟨_, _, _, _, _, _, _, _, rfl, _⟩
    · exact .inl plain.fragment_eq_none
    · exact (plain_seriesElements s _ _ _ _ _ e failed).1
    · exact .inl rfl
    · exact .inl rfl
  rcases noted with noted | noted <;> simp only [GenerationError.inFragment, noted] <;> rfl

/-- After that some fragment is noted. -/
theorem fragment_of_noted (failed : x.noted s = .error e next) : e.fragment ≠ none := by
  obtain ⟨raised, -, rfl⟩ := Naming.mapError_eq_error_iff.1 failed
  cases noted : raised.fragment <;> simp [GenerationError.inFragment, noted]

/-- Where a piece raises an error of itself, nothing inside it has failed. -/
theorem Refuses.ok_of_enters (refused : Refuses s x e next) (enters : Enters s x y) :
    ∃ text after, y.noted s = .ok text after := by
  cases inside : y.noted s with
  | ok text after => exact ⟨text, after, rfl⟩
  | error e' after =>
    have same := result_of_enters enters inside
    rw [result_of_refuses refused] at same
    cases same
    -- What fails inside notes a fragment, which among these errors only that of a series does.
    have noted := fragment_of_noted inside
    rcases refused.cause_cases with
      plain | ⟨_, _, _, _, _, piece, failed⟩ | rfl | ⟨_, _, _, _, _, _, _, _, rfl, _⟩
    · exact absurd plain.fragment_eq_none noted
    · cases enters with
      | series walked done entered reached =>
        -- A series whose elements are not known has no body to resolve.
        cases piece
        cases walked.symm.trans failed
      | scope | line | indent | conditional | format | reference => cases piece
    · exact absurd rfl noted
    · exact absurd rfl noted

/-- In the resolution of a template, a site raises an error of itself. It is a site of the template, or
inside one at any depth. -/
def RaisedAt (s : Setting) (template : Template) (c : Context) (n : Namer) (last : Site)
    (cause : GenerationError) (next : Namer) : Prop :=
  ∃ first, Reached s (s.depthBound - 1) c template n first ∧ Relation.ReflTransGen (Enters s) first last ∧
    Refuses s last cause next

end Site

end Sites

/-- A template fails just where one of its sites, or a site at any depth inside one, raises an error of
itself while nothing inside it has failed, and the error notes the piece of this very site. If names have run
out, the piece asked for the name of an object, in its own context or further inside, and the error tells the
context of this object. -/
theorem errors_say_their_origin [PatternLibrary] (s : Setting) (template : Template) (c : Context) (n : Namer) :
    (∀ e next, resolve s template c n = .error e next ↔ ∃ last cause,
      Site.RaisedAt s template c n last cause next ∧ e = ⟨cause.problem, some last.piece.describe⟩) ∧
    ∀ last cause next, Site.RaisedAt s template c n last cause next → last.piece.describe ≠ "" ∧
      (∀ inner, last.Enters s inner → ∃ text after, inner.noted s = .ok text after) ∧
      ∀ attempt context, cause.problem = .namesExhausted attempt context →
        ∃ label legal key q, last.piece = .reference label legal ∧ DataKey.parse? label = some key ∧
          last.context.AsksName s key q ∧ q.focus.IsNamed ∧
          (last.context.focus :: last.context.outer) <:+ (q.focus :: q.outer) ∧
          context = some (q.describe s) ∧ q.describe s ≠ "" ∧
          q.name s legal last.names = .error cause next := by
  refine ⟨?_, ?_⟩
  · intro e next
    have whole : resolve s template c n = .error e next ↔ _ :=
      Site.resolveWith_error_iff (s := s)
    rw [whole]
    constructor
    · rintro ⟨first, reached, failed⟩
      obtain ⟨last, cause, trail, refused, noted⟩ := first.exists_of_noted_error e failed
      exact ⟨last, cause, ⟨first, reached, trail, refused⟩, noted.trans refused.inFragment⟩
    · rintro ⟨last, cause, ⟨first, reached, trail, refused⟩, rfl⟩
      exact ⟨first, reached, refused.inFragment ▸ Site.noted_of_trail trail refused⟩
  · rintro last cause next ⟨first, -, -, refused⟩
    refine ⟨last.piece.describe_ne_empty, fun inner enters => refused.ok_of_enters enters, ?_⟩
    intro attempt context exhausted
    -- Of the four kinds of causes only the last one is a lack of names.
    rcases refused.cause_cases with
      plain | ⟨_, _, _, _, _, _, failed⟩ | rfl |
        ⟨label, legal, key, q, cause', piece, known, asks, rfl, asked⟩
    · exact absurd exhausted (plain.not_exhausted attempt context)
    · exact absurd exhausted ((plain_seriesElements s _ _ _ _ _ cause failed).not_exhausted attempt context)
    · cases exhausted
    · cases exhausted
      exact ⟨label, legal, key, q, piece, known, asks, asks.isNamed, asks.suffix, rfl,
        q.describe_ne_empty s, asked⟩

open Libraries

/-- A variable that is bound to another, and a format that writes its value. -/
def boundSetting : Setting where
  model := {
    root := ⟨0⟩
    components := .ofList [
      (⟨0⟩, ⟨⟨0⟩, "Start", none, .storyPoint { children := [⟨1⟩, ⟨2⟩] }⟩),
      (⟨1⟩, ⟨⟨1⟩, "Hero", some ⟨0⟩, .knowIt {}⟩),
      (⟨2⟩, ⟨⟨2⟩, "Actor", some ⟨0⟩, .knowIt { binding := .reference ⟨1⟩ }⟩)] }
  dictionary := { name := "Plain", formats := .ofList [("write", [.line [.ref "value"]])] }
  location := ⟨"main", none⟩
  namingPattern := LegalPattern.defaultNaming

def boundContext : Context where
  focus := .component ⟨⟨2⟩, "Actor", some ⟨0⟩, .knowIt { binding := .reference ⟨1⟩ }⟩

/-- Where the name of the other variable is reserved, its context is told, and the reference in the format
is noted. -/
theorem bound_value_tells_target :
    ∃ last cause next key q,
      Site.RaisedAt boundSetting [.indent [.format "write" none]] boundContext
        { reserved := ["Hero"], maxAttempts := 0 } last cause next ∧
      last.piece.describe = "reference 'value'" ∧ last.context.AsksName boundSetting key q ∧
      q.describe boundSetting = "knowit context for 'Hero'" := by
  let template : Template := [.indent [.format "write" none]]
  let names : Namer := { reserved := ["Hero"], maxAttempts := 0 }
  have told : (match resolve boundSetting template boundContext names with
      | .ok _ _ => none
      | .error e _ => some e) = some ⟨.namesExhausted ⟨"Hero", 0⟩ (some "knowit context for 'Hero'"),
        some "reference 'value'"⟩ := by
    decide +kernel
  obtain ⟨fails, tells⟩ := errors_say_their_origin boundSetting template boundContext names
  cases failed : resolve boundSetting template boundContext names with
  | ok text next =>
    rw [failed] at told
    cases told
  | error e next =>
    rw [failed] at told
    cases told
    obtain ⟨last, cause, raised, same⟩ := (fails _ next).1 failed
    obtain ⟨-, -, exhausted⟩ := tells last cause next raised
    obtain ⟨label, legal, key, q, -, -, asks, -, -, context, -⟩ :=
      exhausted ⟨"Hero", 0⟩ (some "knowit context for 'Hero'") (congrArg GenerationError.problem same).symm
    exact ⟨last, cause, next, key, q, raised,
      (Option.some.inj (congrArg GenerationError.fragment same)).symm, asks, (Option.some.inj context).symm⟩

end StoryLoom
