/-!
# Scatter — an order of numbered things that follows neither age nor size

- `rowFor`       : how long a row of seats some things need
- `home`         : the seat that a number asks for
- `scatter`      : things in the order of their seats
- `scatter_perm` : nothing is lost and nothing comes twice
- `map_scatter`  : the order depends on the numbers alone

Where several objects lay claim to one, the order settles which of them comes last. It depends on the
numbers, and where two of them ask for one seat, on who came first.
-/

namespace StoryLoom
namespace Scatter

variable {α : Type}

/-- The length of the row for so many things: a power of two, of which they fill seven eighths at
most. -/
def rowFor (count : Nat) : Nat :=
  max 4 ((8 * count + 6) / 7).nextPowerOfTwo

/-- The seat that a number asks for: some of the middle bits of its product with a large odd
constant. -/
def home (row number : Nat) : Nat :=
  number * 0xf1357aea2e62a9c5 % (1 <<< 64) / (1 <<< 38) % row

/-- The first free seat from a given one on; the row closes to a circle. -/
def freeSeat (row : Nat) (taken : List Nat) (wanted : Nat) : Nat :=
  (((List.range row).map (fun d => (wanted + d) % row)).find? (fun s => !taken.contains s)).getD
    wanted

/-- Give the next thing a seat. -/
def sit (number : α → Nat) (row : Nat) (seated : List (Nat × α)) (a : α) : List (Nat × α) :=
  (freeSeat row (seated.map Prod.fst) (home row (number a)), a) :: seated

/-- Things in the order of their seats. -/
def scatter (number : α → Nat) (things : List α) : List α :=
  ((things.foldl (sit number (rowFor things.length)) []).mergeSort
    (fun a b => decide (a.1 ≤ b.1))).map Prod.snd

theorem map_snd_foldl_sit (number : α → Nat) (row : Nat) (things : List α)
    (seated : List (Nat × α)) :
    (things.foldl (sit number row) seated).map Prod.snd =
      things.reverse ++ seated.map Prod.snd := by
  induction things generalizing seated with
  | nil => rfl
  | cons a rest ih => simp [ih, sit]

/-- Scattering loses nothing and repeats nothing. -/
theorem scatter_perm (number : α → Nat) (things : List α) :
    (scatter number things).Perm things := by
  have sorted := (List.mergeSort_perm (things.foldl (sit number (rowFor things.length)) [])
    (fun a b => decide (a.1 ≤ b.1))).map Prod.snd
  rw [map_snd_foldl_sit, List.map_nil, List.append_nil] at sorted
  exact sorted.trans things.reverse_perm

/-- A thing gets its seat for its number. -/
theorem map_foldl_sit {β : Type} (number : β → Nat) (f : α → β) (row : Nat) (things : List α)
    (seated : List (Nat × α)) :
    (things.foldl (sit (fun a => number (f a)) row) seated).map (Prod.map id f) =
      (things.map f).foldl (sit number row) (seated.map (Prod.map id f)) := by
  induction things generalizing seated with
  | nil => rfl
  | cons a rest ih =>
    have sitting : (sit (fun a => number (f a)) row seated a).map (Prod.map id f) =
        sit number row (seated.map (Prod.map id f)) (f a) := by
      rw [sit, sit, List.map_cons, List.map_map]
      rfl
    rw [List.foldl_cons, ih, sitting, List.map_cons, List.foldl_cons]

/-- The order depends on the numbers alone. -/
theorem map_scatter {β : Type} (number : β → Nat) (f : α → β) (things : List α) :
    (scatter (fun a => number (f a)) things).map f = scatter number (things.map f) := by
  have seated := map_foldl_sit number f (rowFor things.length) things []
  have sorted : ∀ l : List (Nat × α), (l.mergeSort fun a b => decide (a.1 ≤ b.1)).map (Prod.map id f) =
      (l.map (Prod.map id f)).mergeSort fun a b => decide (a.1 ≤ b.1) := by
    intro l
    exact List.map_mergeSort fun _ _ _ _ => rfl
  calc (scatter (fun a => number (f a)) things).map f
      = (((things.foldl (sit (fun a => number (f a)) (rowFor things.length)) []).mergeSort
          (fun a b => decide (a.1 ≤ b.1))).map (Prod.map id f)).map Prod.snd := by
        rw [scatter, List.map_map, List.map_map]
        rfl
    _ = scatter number (things.map f) := by
        rw [sorted, seated, scatter, List.length_map, List.map_nil]

end Scatter
end StoryLoom
