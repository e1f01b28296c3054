import Mathlib.Data.List.Basic
import StoryLoom.Filing.Tree

/-!
# Direct — the files that lie in a folder itself

- `mergeSort_cons_eq`, `mergeSort_filter` : sorting and then filtering is filtering and then sorting
- `pathLe_trans`, `pathLe_total` : paths are in a total order
- `byPath`, `byName` : the orders in which files and entries are listed
- `isDirect`       : a path of one name
- `length_lt_of_mem_filesAmong` : the path of a file below a folder goes on where that of the folder ends
- `direct_files`   : the files in a folder itself are its entries that are files, in the order of names

All files below a folder are listed by their whole paths, so between two files of the folder itself there may
be any number from the folders below it. The sort is stable, so leaving those out changes no order.
-/

namespace StoryLoom
namespace Filing

/-! ## Sorting -/

section Sorting

variable {α : Type} {le : α → α → Bool}
  (trans : ∀ a b c, le a b = true → le b c = true → le a c = true)
  (total : ∀ a b, (le a b || le b a) = true)

include trans total

/-- An element is sorted in behind all that come strictly before it, whatever was sorted already. -/
theorem mergeSort_cons_eq (a : α) (l : List α) :
    (a :: l).mergeSort le =
      (l.mergeSort le).filter (fun b => !le a b) ++ a :: (l.mergeSort le).filter (le a) := by
  rcases List.mergeSort_cons trans total a l with ⟨before, after, whole, rest, strictly⟩
  have sorted := List.pairwise_mergeSort trans total (a :: l)
  rw [whole] at sorted
  have behind : ∀ b ∈ after, le a b = true :=
    (List.pairwise_cons.1 (List.pairwise_append.1 sorted).2.1).1
  have low : before.filter (le a) = [] :=
    List.filter_eq_nil_iff.2 fun b hb => by simpa using strictly b hb
  have high : after.filter (fun b => !le a b) = [] :=
    List.filter_eq_nil_iff.2 fun b hb => by simpa using behind b hb
  rw [whole, rest, List.filter_append, List.filter_append, low, high,
    List.filter_eq_self.2 strictly, List.filter_eq_self.2 behind, List.append_nil, List.nil_append]

/-- Sorting what a filter leaves is filtering the sorted list. -/
theorem mergeSort_filter (p : α → Bool) (l : List α) :
    (l.filter p).mergeSort le = (l.mergeSort le).filter p := by
  induction l with
  | nil => simp
  | cons a rest ih =>
    cases kept : p a with
    | true =>
      -- Both sides put the element between the same two parts, which a filter takes over.
      rw [List.filter_cons_of_pos kept, mergeSort_cons_eq trans total, mergeSort_cons_eq trans total, ih,
        List.filter_append, List.filter_cons_of_pos kept, List.filter_comm, List.filter_comm p (le a)]
    | false =>
      have dropped : ¬p a = true := by simp [kept]
      rcases List.mergeSort_cons trans total a rest with ⟨before, after, whole, others, -⟩
      calc
        ((a :: rest).filter p).mergeSort le = (rest.filter p).mergeSort le := by
          rw [List.filter_cons_of_neg dropped]
        _ = (before ++ after).filter p := by rw [ih, others]
        _ = (before ++ a :: after).filter p := by
          rw [List.filter_append, List.filter_append, List.filter_cons_of_neg dropped]
        _ = ((a :: rest).mergeSort le).filter p := by rw [whole]

end Sorting

/-! ## The order of paths -/

theorem pathLe_cons_self {a : String} {as bs : List String} :
    pathLe (a :: as) (a :: bs) = pathLe as bs := by
  simp [pathLe]

theorem pathLe_cons_of_ne {a b : String} {as bs : List String} (other : a ≠ b) :
    pathLe (a :: as) (b :: bs) = decide (a ≤ b) := by
  simp [pathLe, other]

/-- The order of paths is lexicographic, and so transitive. -/
theorem pathLe_trans (as bs cs : List String) (hab : pathLe as bs = true) (hbc : pathLe bs cs = true) :
    pathLe as cs = true := by
  induction as generalizing bs cs with
  | nil => rfl
  | cons a as ih =>
    rcases bs with - | ⟨b, bs⟩
    · cases hab
    rcases cs with - | ⟨c, cs⟩
    · cases hbc
    by_cases left : a = b
    · subst left
      by_cases right : a = c
      · subst right
        rw [pathLe_cons_self] at hab hbc ⊢
        exact ih bs cs hab hbc
      · rw [pathLe_cons_of_ne right] at hbc ⊢
        exact hbc
    · rw [pathLe_cons_of_ne left, decide_eq_true_iff] at hab
      by_cases right : b = c
      · subst right
        rw [pathLe_cons_of_ne left, decide_eq_true_iff]
        exact hab
      · rw [pathLe_cons_of_ne right, decide_eq_true_iff] at hbc
        -- The first names differ, for else the name between them would be the same.
        have ends : a ≠ c := by
          rintro rfl
          exact left (String.le_antisymm hab hbc)
        rw [pathLe_cons_of_ne ends, decide_eq_true_iff]
        exact String.le_trans hab hbc

/-- Any two paths can be compared. -/
theorem pathLe_total (as bs : List String) : (pathLe as bs || pathLe bs as) = true := by
  induction as generalizing bs with
  | nil => rfl
  | cons a as ih =>
    rcases bs with - | ⟨b, bs⟩
    · rfl
    by_cases same : a = b
    · subst same
      rw [pathLe_cons_self, pathLe_cons_self]
      exact ih bs
    · rw [pathLe_cons_of_ne same, pathLe_cons_of_ne (Ne.symm same)]
      simpa using String.le_total a b

/-- Paths of one name are in the order of their names. -/
theorem pathLe_singleton (a b : String) : pathLe [a] [b] = decide (a ≤ b) := by
  by_cases same : a = b
  · subst same
    simp [pathLe]
  · exact pathLe_cons_of_ne same

section Order

variable {α : Type}

/-- Something at a path comes no later than something at another one. -/
def byPath (a b : List String × α) : Bool :=
  pathLe a.1 b.1

/-- Something of a name comes no later than something of another one. -/
def byName (a b : String × α) : Bool :=
  decide (a.1 ≤ b.1)

theorem byPath_trans (a b c : List String × α) (hab : byPath a b = true) (hbc : byPath b c = true) :
    byPath a c = true :=
  pathLe_trans a.1 b.1 c.1 hab hbc

theorem byPath_total (a b : List String × α) : (byPath a b || byPath b a) = true :=
  pathLe_total a.1 b.1

theorem byName_trans (a b c : String × α) (hab : byName a b = true) (hbc : byName b c = true) :
    byName a c = true := by
  simp only [byName, decide_eq_true_iff] at hab hbc ⊢
  exact String.le_trans hab hbc

theorem byName_total (a b : String × α) : (byName a b || byName b a) = true := by
  simpa [byName] using String.le_total a.1 b.1

end Order

/-! ## Files in the folder itself -/

namespace Node

/-- Whether a path has one name only, as that of a file in the folder itself. -/
def isDirect {α : Type} (f : List String × α) : Bool :=
  f.1.length == 1

/-- A file with the path of names that leads to it, as a node. -/
def ofFile (f : List String × String) : List String × Node :=
  (f.1, .file f.2)

/-- An entry of a folder with the path that leads to it from there. -/
def ofEntry (e : String × Node) : List String × Node :=
  ([e.1], e.2)

mutual

/-- Below a path all paths are longer. -/
theorem length_le_of_mem_filesBelow {path : List String} {f : List String × String} :
    ∀ node : Node, f ∈ node.filesBelow path → path.length ≤ f.1.length
  | .file text, h => by
    rw [filesBelow, List.mem_singleton] at h
    subst h
    exact Nat.le_refl _
  | .folder entries, h => by
    rw [filesBelow] at h
    exact Nat.le_of_lt (length_lt_of_mem_filesAmong entries h)

/-- The path of a file below a folder goes on where that of the folder ends. -/
theorem length_lt_of_mem_filesAmong {path : List String} {f : List String × String} :
    ∀ entries : List (String × Node), f ∈ filesAmong path entries → path.length < f.1.length
  | [], h => by
    rw [filesAmong] at h
    cases h
  | (name, node) :: rest, h => by
    rw [filesAmong] at h
    rcases List.mem_append.1 h with here | later
    · have longer := length_le_of_mem_filesBelow node here
      rw [List.length_append] at longer
      exact longer
    · exact length_lt_of_mem_filesAmong rest later

end

/-- A folder below has no files of the folder itself. -/
theorem filter_isDirect_filesAmong (name : String) (entries : List (String × Node)) :
    (filesAmong [name] entries).filter isDirect = [] := by
  refine List.filter_eq_nil_iff.2 ?_
  intro f hf direct
  have longer : 1 < f.1.length := length_lt_of_mem_filesAmong entries hf
  have one : f.1.length = 1 := by simpa [isDirect] using direct
  omega

/-- The files with one name in their path are the entries of the folder that are no folders. -/
theorem direct_filesAmong (entries : List (String × Node)) :
    ((filesAmong [] entries).filter isDirect).map ofFile =
      (entries.filter (fun e => !e.2.isFolder)).map ofEntry := by
  induction entries with
  | nil => rfl
  | cons e rest ih =>
    rcases e with ⟨name, text | inner⟩
    · calc
        ((filesAmong [] ((name, file text) :: rest)).filter isDirect).map ofFile
            = ofFile ([name], text) :: ((filesAmong [] rest).filter isDirect).map ofFile := rfl
        _ = ofEntry (name, file text) :: (rest.filter (fun e => !e.2.isFolder)).map ofEntry := by
          rw [ih]
          rfl
        _ = (((name, file text) :: rest).filter (fun e => !e.2.isFolder)).map ofEntry := rfl
    · have apart : filesAmong [] ((name, folder inner) :: rest) =
          filesAmong [name] inner ++ filesAmong [] rest := rfl
      rw [apart, List.filter_append, filter_isDirect_filesAmong, List.nil_append, ih]
      rfl

/-- The files in a folder itself are its entries that are files, in the order of their names. -/
theorem direct_files (entries : List (String × Node)) :
    ((folder entries).files.filter isDirect).map ofFile =
      ((entries.filter (fun e => !e.2.isFolder)).mergeSort byName).map ofEntry := by
  calc
    ((folder entries).files.filter isDirect).map ofFile
        = (((filesAmong [] entries).filter isDirect).mergeSort byPath).map ofFile := by
      rw [mergeSort_filter byPath_trans byPath_total]
      rfl
    _ = (((filesAmong [] entries).filter isDirect).map ofFile).mergeSort byPath :=
      List.map_mergeSort fun _ _ _ _ => rfl
    _ = ((entries.filter (fun e => !e.2.isFolder)).map ofEntry).mergeSort byPath := by
      rw [direct_filesAmong]
    _ = ((entries.filter (fun e => !e.2.isFolder)).mergeSort byName).map ofEntry :=
      (List.map_mergeSort fun a _ b _ => (pathLe_singleton a.1 b.1).symm).symm

end Node
end Filing
end StoryLoom
