import StoryLoom.Proofs.Pattern.Positions

/-!
# Spans — which parts of a text an expression matches

- `Times`        : so many moves one after the other
- `Expr.Spans`   : an expression matches the part of a text between two positions
- `Realizes`     : a function on sets of positions leads from each member to what is related to it
- `realizes_route` : the moves of an expression lead from the start of a match to its end
- `occursIn_iff` : a search succeeds just if some part of the text matches

A search works on sets of positions: a repetition stops when a set stays the same, and one inside another
is worked out once for each position. Neither changes which positions are reached, since no match ends
before it starts.
-/

namespace StoryLoom
namespace Pattern

/-- So many moves one after the other. -/
def Times (R : Nat → Nat → Prop) : Nat → Nat → Nat → Prop
  | 0, i, j => j = i
  | n + 1, i, j => ∃ k, R i k ∧ Times R n k j

namespace Expr

mutual

/-- Whether an expression matches the part of a text between two positions. -/
def Spans (text : List Char) : Expr → Nat → Nat → Prop
  | .blank, i, j => j = i
  | .chars k, i, j => (∃ c, text[i]? = some c ∧ k.mem c = true) ∧ j = i + 1
  | .assertion a, i, j => a.holds (before? text i) text[i]? = true ∧ j = i
  | .seq parts, i, j => SpansAll text parts i j
  | .alt branches, i, j => SpansAny text branches i j
  | .repeated least most _ e, i, j =>
    ∃ n, least ≤ n ∧ (∀ m, most = some m → n ≤ max least m) ∧ Times (Spans text e) n i j
  | .group _ e, i, j => Spans text e i j

def SpansAll (text : List Char) : List Expr → Nat → Nat → Prop
  | [], i, j => j = i
  | e :: rest, i, j => ∃ k, Spans text e i k ∧ SpansAll text rest k j

def SpansAny (text : List Char) : List Expr → Nat → Nat → Prop
  | [], _, _ => False
  | e :: rest, i, j => Spans text e i j ∨ SpansAny text rest i j

end

end Expr

variable {R S : Nat → Nat → Prop} {i j k n : Nat}

/-! ## Moves one after the other -/

/-- So many times and so many more. -/
theorem times_add {m : Nat} : Times R (m + n) i j ↔ ∃ k, Times R m i k ∧ Times R n k j := by
  induction m generalizing i with
  | zero =>
    rw [Nat.zero_add]
    constructor
    · exact fun moves => ⟨i, rfl, moves⟩
    · rintro ⟨k, rfl, moves⟩
      exact moves
  | succ m ih =>
    rw [Nat.succ_add]
    constructor
    · rintro ⟨l, first, moves⟩
      obtain ⟨k, front, back⟩ := ih.1 moves
      exact ⟨k, ⟨l, first, front⟩, back⟩
    · rintro ⟨k, ⟨l, first, front⟩, back⟩
      exact ⟨l, first, ih.2 ⟨k, front, back⟩⟩

/-- Any number of steps is a path. -/
theorem reflTransGen_of_times (moves : Times R n i j) : Relation.ReflTransGen R i j := by
  induction n generalizing i with
  | zero =>
    obtain rfl : j = i := moves
    exact .refl
  | succ n ih =>
    obtain ⟨k, first, moves⟩ := moves
    exact (ih moves).head first

/-- And a path has some number of steps. -/
theorem times_of_reflTransGen (path : Relation.ReflTransGen R i j) : ∃ n, Times R n i j := by
  induction path with
  | refl => exact ⟨0, rfl⟩
  | tail _ step ih =>
    obtain ⟨n, moves⟩ := ih
    exact ⟨n + 1, times_add.2 ⟨_, moves, _, step, rfl⟩⟩

/-- Where a move may also stay in place, so many moves are at most so many true ones. -/
theorem times_stay_or_iff :
    Times (fun i j => j = i ∨ R i j) n i j ↔ ∃ m, m ≤ n ∧ Times R m i j := by
  -- A step that stays is left out, and at the end as many steps stay as there are too many.
  induction n generalizing i with
  | zero =>
    constructor
    · exact fun stays => ⟨0, Nat.le_refl 0, stays⟩
    · rintro ⟨m, none, moves⟩
      obtain rfl := Nat.le_zero.1 none
      exact moves
  | succ n ih =>
    constructor
    · rintro ⟨k, rfl | first, moves⟩
      · obtain ⟨m, le, moves⟩ := ih.1 moves
        exact ⟨m, Nat.le_succ_of_le le, moves⟩
      · obtain ⟨m, le, moves⟩ := ih.1 moves
        exact ⟨m + 1, Nat.succ_le_succ le, k, first, moves⟩
    · rintro ⟨m, le, moves⟩
      cases m with
      | zero => exact ⟨i, .inl rfl, ih.2 ⟨0, Nat.zero_le n, moves⟩⟩
      | succ m =>
        obtain ⟨k, first, moves⟩ := moves
        exact ⟨k, .inr first, ih.2 ⟨m, Nat.le_of_succ_le_succ le, moves⟩⟩

/-- Moves from the positions up to `n` lead to such positions, and never back. -/
def Forward (n : Nat) (R : Nat → Nat → Prop) : Prop :=
  ∀ i j, i ≤ n → R i j → i ≤ j ∧ j ≤ n

/-- Two relations that go forward go forward in a row. -/
theorem Forward.comp (hR : Forward n R) (hS : Forward n S) :
    Forward n fun i j => ∃ k, R i k ∧ S k j := by
  rintro i j inside ⟨k, first, second⟩
  obtain ⟨le, inside⟩ := hR i k inside first
  obtain ⟨le', inside⟩ := hS k j inside second
  exact ⟨Nat.le_trans le le', inside⟩

theorem Forward.reflTransGen (h : Forward n R) : Forward n (Relation.ReflTransGen R) := by
  intro i j inside path
  induction path with
  | refl => exact ⟨Nat.le_refl i, inside⟩
  | tail _ step ih =>
    obtain ⟨le, there⟩ := h _ _ ih.2 step
    exact ⟨Nat.le_trans ih.1 le, there⟩

/-- As every move that does not stay in place leads on, `n` moves get everywhere. -/
theorem Forward.exists_times_iff (h : Forward n R) (inside : i ≤ n) :
    (∃ m, m ≤ n ∧ Times R m i j) ↔ Relation.ReflTransGen R i j := by
  constructor
  · rintro ⟨m, -, moves⟩
    exact reflTransGen_of_times moves
  · intro path
    -- So many moves as positions are passed are enough.
    have short : ∃ m, i + m ≤ j ∧ Times R m i j := by
      induction path with
      | refl => exact ⟨0, Nat.le_refl i, rfl⟩
      | @tail k j path step ih =>
        obtain ⟨m, le, moves⟩ := ih
        obtain ⟨ahead, -⟩ := h k j (h.reflTransGen i k inside path).2 step
        rcases Nat.eq_or_lt_of_le ahead with rfl | further
        · exact ⟨m, le, moves⟩
        · exact ⟨m + 1, by omega, times_add.2 ⟨k, moves, j, step, rfl⟩⟩
    obtain ⟨m, le, moves⟩ := short
    have := (h.reflTransGen i j inside path).2
    exact ⟨m, by omega, moves⟩

/-! ## Sets of positions -/

/-- The members of a set are positions up to `n`. -/
def PosSet.Within (n : Nat) (s : PosSet) : Prop :=
  ∀ i, s.testBit i = true → i ≤ n

/-- A function leads from each member of a set of positions up to `n` to the positions related to it. -/
structure Realizes (n : Nat) (f : PosSet → PosSet) (R : Nat → Nat → Prop) : Prop where
  testBit_iff : ∀ {s : PosSet}, s.Within n → ∀ {j},
    (f s).testBit j = true ↔ ∃ i, s.testBit i = true ∧ R i j
  forward : Forward n R

namespace Realizes

variable {f g : PosSet → PosSet} {s places : PosSet}

/-- No position behind the text is reached. -/
theorem within (h : Realizes n f R) (inside : s.Within n) : (f s).Within n := by
  intro j reached
  obtain ⟨i, start, related⟩ := (h.testBit_iff inside).1 reached
  exact (h.forward i j (inside i start) related).2

/-- Only the positions in the text matter. -/
theorem congr (h : Realizes n f R) (same : ∀ i j, i ≤ n → (R i j ↔ S i j)) : Realizes n f S where
  testBit_iff {s} inside j := by
    rw [h.testBit_iff inside]
    constructor
    · rintro ⟨i, start, related⟩
      exact ⟨i, start, (same i j (inside i start)).1 related⟩
    · rintro ⟨i, start, related⟩
      exact ⟨i, start, (same i j (inside i start)).2 related⟩
  forward i j inside related := h.forward i j inside ((same i j inside).2 related)

/-- What is related to a position is reached from it alone. -/
theorem single_iff (h : Realizes n f R) (inside : i ≤ n) :
    (f (PosSet.single i)).testBit j = true ↔ R i j := by
  have alone : (PosSet.single i).Within n := by
    intro k member
    rw [PosSet.testBit_single.1 member]
    exact inside
  rw [h.testBit_iff alone]
  constructor
  · rintro ⟨k, member, related⟩
    rwa [PosSet.testBit_single.1 member] at related
  · exact fun related => ⟨i, PosSet.testBit_single.2 rfl, related⟩

theorem stay : Realizes n (fun s => s) fun i j => j = i where
  testBit_iff inside j := by
    constructor
    · exact fun member => ⟨j, member, rfl⟩
    · rintro ⟨i, member, rfl⟩
      exact member
  forward i j inside same := ⟨Nat.le_of_eq same.symm, same ▸ inside⟩

theorem step (ahead : ∀ i, places.testBit i = true → i < n) :
    Realizes n (fun s => (s &&& places) <<< 1) fun i j => places.testBit i = true ∧ j = i + 1 where
  testBit_iff {s} inside j := by
    rw [Nat.testBit_shiftLeft, Nat.testBit_and]
    cases j with
    | zero => simp
    | succ j => simp
  forward := by
    rintro i j inside ⟨place, rfl⟩
    exact ⟨Nat.le_succ i, ahead i place⟩

theorem gate (places : PosSet) :
    Realizes n (fun s => s &&& places) fun i j => places.testBit i = true ∧ j = i where
  testBit_iff {s} inside j := by
    rw [Nat.testBit_and, Bool.and_eq_true]
    constructor
    · exact fun ⟨member, place⟩ => ⟨j, member, place, rfl⟩
    · rintro ⟨i, member, place, rfl⟩
      exact ⟨member, place⟩
  forward := by
    rintro i j inside ⟨-, rfl⟩
    exact ⟨Nat.le_refl j, inside⟩

/-- Two steps in a row. -/
theorem comp (hf : Realizes n f R) (hg : Realizes n g S) :
    Realizes n (fun s => g (f s)) fun i j => ∃ k, R i k ∧ S k j where
  testBit_iff {s} inside j := by
    rw [hg.testBit_iff (hf.within inside)]
    constructor
    · rintro ⟨k, reached, second⟩
      obtain ⟨i, member, first⟩ := (hf.testBit_iff inside).1 reached
      exact ⟨i, member, k, first, second⟩
    · rintro ⟨i, member, k, first, second⟩
      exact ⟨k, (hf.testBit_iff inside).2 ⟨i, member, first⟩, second⟩
  forward := hf.forward.comp hg.forward

theorem nowhere : Realizes n (fun _ => 0) fun _ _ => False where
  testBit_iff inside j := by simp
  forward _ _ _ none := none.elim

/-- One step or the other. -/
theorem either (hf : Realizes n f R) (hg : Realizes n g S) :
    Realizes n (fun s => f s ||| g s) fun i j => R i j ∨ S i j where
  testBit_iff {s} inside j := by
    rw [Nat.testBit_or, Bool.or_eq_true, hf.testBit_iff inside, hg.testBit_iff inside]
    constructor
    · rintro (⟨i, member, related⟩ | ⟨i, member, related⟩)
      · exact ⟨i, member, .inl related⟩
      · exact ⟨i, member, .inr related⟩
    · rintro ⟨i, member, related | related⟩
      · exact .inl ⟨i, member, related⟩
      · exact .inr ⟨i, member, related⟩
  forward i j inside related := related.elim (hf.forward i j inside) (hg.forward i j inside)

/-! ## Repetitions -/

/-- A function that leaves a set as it is may stop being applied. -/
theorem iterate_succ (f : PosSet → PosSet) (n : Nat) (s : PosSet) :
    Pattern.iterate f (n + 1) s = Pattern.iterate f n (f s) := by
  rw [Pattern.iterate]
  split
  · rename_i same
    rw [same]
    induction n with
    | zero => rfl
    | succ n ih => rw [Pattern.iterate, if_pos same]
  · rfl

/-- The same step so many times. -/
theorem times (h : Realizes n f R) (count : Nat) :
    Realizes n (Pattern.iterate f count) (Times R count) := by
  induction count with
  | zero => exact stay
  | succ count ih =>
    have more : Pattern.iterate f (count + 1) = fun s => Pattern.iterate f count (f s) :=
      funext fun s => iterate_succ f count s
    rw [more]
    exact h.comp ih

/-- At most so many times. -/
theorem atMost {r : Route} (h : Realizes n r.ends R) (count : Nat) :
    Realizes n (r.atMost count).ends fun i j => ∃ m, m ≤ count ∧ Times R m i j := by
  have fork : Realizes n (Route.fork [.stay, r]).ends fun i j => j = i ∨ R i j := by
    refine (stay.either (h.either nowhere)).congr ?_
    intro i j _
    simp
  refine (fork.times count).congr ?_
  intro i j _
  exact times_stay_or_iff

/-- Steps from places to the next position, any number of times. -/
theorem glide (h : Realizes n (fun s => (s &&& places) <<< 1) R) :
    Realizes n (PosSet.glide places) (Relation.ReflTransGen R) where
  testBit_iff {s} inside j := by
    have here : ∀ i j, i ≤ n → (R i j ↔ places.testBit i = true ∧ j = i + 1) := by
      intro i j inside
      rw [← h.single_iff inside, Nat.testBit_shiftLeft, Nat.testBit_and]
      cases j with
      | zero => simp
      | succ j =>
        have alone : (PosSet.single i).testBit j = true ↔ j = i := PosSet.testBit_single
        simp only [ge_iff_le, Nat.le_add_left, decide_true, Nat.add_sub_cancel, Bool.true_and,
          Bool.and_eq_true, alone, Nat.add_right_cancel_iff]
        constructor
        · rintro ⟨rfl, place⟩
          exact ⟨place, rfl⟩
        · rintro ⟨place, rfl⟩
          exact ⟨rfl, place⟩
    -- A position is reached from the start, or by one step from the position before it.
    induction j with
    | zero =>
      rw [PosSet.testBit_glide_zero]
      constructor
      · exact fun member => ⟨0, member, .refl⟩
      · rintro ⟨i, member, path⟩
        have start := (h.forward.reflTransGen i 0 (inside i member) path).1
        rwa [Nat.le_zero.1 start] at member
    | succ j ih =>
      rw [PosSet.testBit_glide_succ, Bool.or_eq_true, Bool.and_eq_true]
      constructor
      · rintro (member | ⟨place, reached⟩)
        · exact ⟨j + 1, member, .refl⟩
        · obtain ⟨i, member, path⟩ := ih.1 reached
          have there := (h.forward.reflTransGen i j (inside i member) path).2
          exact ⟨i, member, path.tail ((here j (j + 1) there).2 ⟨place, rfl⟩)⟩
      · rintro ⟨i, member, path⟩
        rcases path.cases_tail with same | ⟨k, path, last⟩
        · exact .inl (same ▸ member)
        · have there := (h.forward.reflTransGen i k (inside i member) path).2
          obtain ⟨place, next⟩ := (here k (j + 1) there).1 last
          obtain rfl := Nat.succ.inj next
          exact .inr ⟨place, ih.2 ⟨i, member, path⟩⟩
  forward := h.forward.reflTransGen

/-- Any number of moves leads nowhere, or begins with one that does not stay in place. -/
theorem reflTransGen_iff_leaves :
    Relation.ReflTransGen R i j ↔ j = i ∨ ∃ k, (R i k ∧ k ≠ i) ∧ Relation.ReflTransGen R k j := by
  constructor
  · intro path
    induction path with
    | refl => exact .inl rfl
    | @tail k j _ step ih =>
      rcases ih with rfl | ⟨l, first, path⟩
      · by_cases same : j = k
        · exact .inl same
        · exact .inr ⟨j, ⟨step, same⟩, .refl⟩
      · exact .inr ⟨l, first, path.tail step⟩
  · rintro (rfl | ⟨k, ⟨step, -⟩, path⟩)
    · exact .refl
    · exact path.head step

/-- Where any number of moves from each of the last positions ends is worked out from the last to the
first. -/
theorem getElem?_closures (h : Realizes n f R) {count : Nat} (few : count ≤ n + 1) :
    (closures f n count).size = count ∧ ∀ p, p ≤ n → n - p < count → ∀ j,
      ((closures f n count)[n - p]?.getD 0).testBit j = true ↔ Relation.ReflTransGen R p j := by
  induction count with
  | zero => exact ⟨rfl, fun _ _ none => absurd none (Nat.not_lt_zero _)⟩
  | succ count ih =>
    obtain ⟨size, later⟩ := ih (by omega)
    refine ⟨by rw [closures, Array.size_push, size], ?_⟩
    intro q inside known j
    rw [closures, Array.getElem?_push, size]
    split
    · obtain rfl : q = n - count := by omega
      have next : ∀ i, (f (PosSet.single (n - count)) - (f (PosSet.single (n - count)) &&&
          PosSet.single (n - count))).testBit i = true ↔ R (n - count) i ∧ i ≠ n - count := by
        intro i
        rw [PosSet.testBit_sub_and, Bool.and_eq_true, h.single_iff inside, Bool.not_eq_true',
          ← Bool.not_eq_true, PosSet.testBit_single]
      -- The positions that follow are further on, so that they are known already.
      have ahead : ∀ i, R (n - count) i ∧ i ≠ n - count → n - count < i ∧ i ≤ n := by
        rintro i ⟨step, other⟩
        obtain ⟨le, there⟩ := h.forward _ i inside step
        exact ⟨Nat.lt_of_le_of_ne le (Ne.symm other), there⟩
      have reached : ∀ i, R (n - count) i ∧ i ≠ n - count → ∀ j,
          ((closures f n count)[n - i]?.getD 0).testBit j = true ↔ Relation.ReflTransGen R i j := by
        intro i leaves
        have := ahead i leaves
        exact later i (by omega) (by omega)
      rw [Option.getD_some, Nat.testBit_or, Bool.or_eq_true, PosSet.testBit_single,
        reflTransGen_iff_leaves, PosSet.testBit_gather (n - count)]
      · refine or_congr_right (exists_congr fun i => ?_)
        rw [next]
        exact and_congr_right fun leaves => reached i leaves j
      · intro i member
        have := ahead i ((next i).1 member)
        omega
      · intro p q j hp hq front back
        have there := (reached p ((next p).1 hp) q).1 front
        exact (reached p ((next p).1 hp) j).2 (there.trans ((reached q ((next q).1 hq) j).1 back))
    · exact later q inside (by omega) j

/-- Any number of moves, as worked out for each position. -/
theorem loop (h : Realizes n f R) :
    Realizes n (Route.loop n (closures f n (n + 1))).ends (Relation.ReflTransGen R) where
  testBit_iff {s} inside j := by
    obtain ⟨-, known⟩ := h.getElem?_closures (Nat.le_refl (n + 1))
    have reached : ∀ p, s.testBit p = true → ∀ j,
        ((closures f n (n + 1))[n - p]?.getD 0).testBit j = true ↔ Relation.ReflTransGen R p j :=
      fun p member => known p (inside p member) (by omega)
    rw [Route.ends, PosSet.testBit_gather 0]
    · constructor
      · exact fun ⟨p, member, there⟩ => ⟨p, member, (reached p member j).1 there⟩
      · exact fun ⟨p, member, there⟩ => ⟨p, member, (reached p member j).2 there⟩
    · intro i member
      have := inside i member
      omega
    · intro p q j hp hq front back
      exact (reached p hp j).2 (((reached p hp q).1 front).trans ((reached q hq j).1 back))
  forward := h.forward.reflTransGen

end Realizes

/-! ## Expressions -/

mutual

/-- Moves that all go just one position on are steps from places. -/
theorem Route.ends_of_step? {places : PosSet} : ∀ {r : Route}, r.step? = some places →
    ∀ s, r.ends s = (s &&& places) <<< 1
  | .step _, h, s => by
    cases h
    rw [ends]
  | .fork rs, h, s => by
    rw [ends]
    exact endsOfFork_of_step? h s
  | .stay, h, _ => by cases h
  | .gate _, h, _ => by cases h
  | .chain _, h, _ => by cases h
  | .times _ _, h, _ => by cases h
  | .glide _, h, _ => by cases h
  | .loop _ _, h, _ => by cases h

theorem Route.endsOfFork_of_step? {places : PosSet} : ∀ {rs : List Route}, stepOfAll? rs = some places →
    ∀ s, endsOfFork rs s = (s &&& places) <<< 1
  | [], h, s => by
    cases h
    simp [endsOfFork]
  | r :: rest, h, s => by
    obtain ⟨first, hr, h⟩ := Option.bind_eq_some_iff.1 h
    obtain ⟨others, hs, h⟩ := Option.bind_eq_some_iff.1 h
    cases h
    rw [endsOfFork, Route.ends_of_step? hr, Route.endsOfFork_of_step? hs, ← Nat.shiftLeft_or_distrib,
      ← Nat.and_or_distrib_left]

end

/-- Any number of times, by gliding over single characters where each pass takes one. -/
theorem Realizes.anyTimes {r : Route} (h : Realizes n r.ends R) (inLoop : Bool) :
    Realizes n (r.anyTimes n inLoop).ends (Relation.ReflTransGen R) := by
  rw [Route.anyTimes]
  split
  · rename_i places steps
    have same : r.ends = fun s => (s &&& places) <<< 1 := funext (Route.ends_of_step? steps)
    rw [same] at h
    exact h.glide
  -- Inside another repetition the ends are worked out for each position, outside for one set at a time.
  · split
    · exact h.loop
    · exact (h.atMost n).congr fun i j inside => h.forward.exists_times_iff inside

/-- An assertion holds at the positions marked for it. -/
theorem Assertion.testBit_places {text : List Char} (a : Assertion) (h : i ≤ text.length) :
    (a.places text).testBit i = a.holds (before? text i) text[i]? := by
  have everywhere : (PosSet.ofBits (PosSet.neighbours (fun before after => a.holds before after)
      none text)).testBit i = a.holds (before? text i) text[i]? := by
    rw [PosSet.testBit_ofBits, PosSet.getElem?_neighbours _ _ _ h, Option.getD_some]
    cases i <;> rfl
  -- The two ends of the text have their places written down, the others have them looked for.
  cases a with
  | textStart =>
    apply Bool.eq_iff_iff.2
    rw [places, PosSet.testBit_single, holds]
    cases i with
    | zero => simp [before?]
    | succ i =>
      have there : i < text.length := h
      simp [before?, there]
  | textEnd =>
    apply Bool.eq_iff_iff.2
    rw [places, PosSet.testBit_single, holds, Option.isNone_iff_eq_none, List.getElem?_eq_none_iff]
    omega
  | lineStart crlf => exact everywhere
  | lineEnd crlf => exact everywhere
  | wordEdge ascii => exact everywhere
  | wordInterior ascii => exact everywhere
  | wordStart ascii => exact everywhere
  | wordEnd ascii => exact everywhere
  | wordStartHalf ascii => exact everywhere
  | wordEndHalf ascii => exact everywhere

/-- The places of the members of a set of characters. -/
theorem testBit_ofBits_map {text : List Char} {holds : Char → Bool} :
    (PosSet.ofBits (text.map holds)).testBit i = true ↔ ∃ c, text[i]? = some c ∧ holds c = true := by
  rw [PosSet.testBit_ofBits, List.getElem?_map]
  cases text[i]? <;> simp

/-- So many moves, and then up to `extra` or any number of moves. -/
theorem exists_times_then_iff {least : Nat} (extra : Nat → Prop) :
    (∃ k, Times R least i k ∧ ∃ l, (∃ m, extra m ∧ Times R m k l) ∧ j = l) ↔
      ∃ m, least ≤ m ∧ extra (m - least) ∧ Times R m i j := by
  constructor
  · rintro ⟨k, front, _, ⟨m, few, back⟩, rfl⟩
    exact ⟨least + m, Nat.le_add_right least m, by rwa [Nat.add_sub_cancel_left],
      times_add.2 ⟨k, front, back⟩⟩
  · rintro ⟨m, enough, few, moves⟩
    rw [← Nat.add_sub_cancel' enough] at moves
    obtain ⟨k, front, back⟩ := times_add.1 moves
    exact ⟨k, front, j, ⟨m - least, few, back⟩, rfl⟩

mutual

/-- The moves of an expression lead from where a match starts to where it ends. -/
theorem Expr.realizes_route (text : List Char) (inLoop : Bool) : ∀ e : Expr,
    Realizes text.length (e.route text inLoop).ends (e.Spans text)
  | .blank => .stay
  | .chars k => by
    have ahead : ∀ i, (PosSet.ofBits (text.map k.mem)).testBit i = true → i < text.length := by
      intro i place
      obtain ⟨c, here, -⟩ := testBit_ofBits_map.1 place
      exact (List.getElem?_eq_some_iff.1 here).1
    exact (Realizes.step ahead).congr fun i j _ => and_congr_left' testBit_ofBits_map
  | .assertion a => by
    refine (Realizes.gate (a.places text)).congr ?_
    intro i j inside
    rw [a.testBit_places inside, Spans]
  | .seq parts => Expr.realizes_chain text inLoop parts
  | .alt branches => Expr.realizes_fork text inLoop branches
  | .repeated least none _ e => by
    have body := Expr.realizes_route text true e
    refine ((body.times least).comp ((body.anyTimes inLoop).comp .stay)).congr ?_
    intro i j _
    -- At least so many times means so many times, and then any number of times.
    have any : ∀ k l, Relation.ReflTransGen (Spans text e) k l ↔
        ∃ m, True ∧ Times (Spans text e) m k l :=
      fun k l => ⟨fun path => (times_of_reflTransGen path).imp fun _ moves => ⟨trivial, moves⟩,
        fun ⟨_, _, moves⟩ => reflTransGen_of_times moves⟩
    simp only [any, exists_times_then_iff fun _ => True, Spans]
    simp
  | .repeated least (some most) _ e => by
    have body := Expr.realizes_route text inLoop e
    refine ((body.times least).comp ((body.atMost (most - least)).comp .stay)).congr ?_
    intro i j _
    rw [Spans, exists_times_then_iff fun m => m ≤ most - least]
    refine exists_congr fun m => and_congr_right fun enough => and_congr_left fun _ => ?_
    constructor
    · intro few m' same
      cases same
      omega
    · intro few
      have := few most rfl
      omega
  | .group _ e => Expr.realizes_route text inLoop e

/-- The routes of a sequence, one after another. -/
theorem Expr.realizes_chain (text : List Char) (inLoop : Bool) : ∀ es : List Expr,
    Realizes text.length (Route.endsOfChain (routes text inLoop es)) (SpansAll text es)
  | [] => .stay
  | e :: rest => (Expr.realizes_route text inLoop e).comp (Expr.realizes_chain text inLoop rest)

/-- The routes of alternatives, side by side. -/
theorem Expr.realizes_fork (text : List Char) (inLoop : Bool) : ∀ es : List Expr,
    Realizes text.length (Route.endsOfFork (routes text inLoop es)) (SpansAny text es)
  | [] => .nowhere
  | e :: rest => (Expr.realizes_route text inLoop e).either (Expr.realizes_fork text inLoop rest)

end

/-- A search succeeds just if some part of the text matches. -/
theorem Expr.occursIn_iff {e : Expr} {text : List Char} :
    e.occursIn text = true ↔ ∃ i j, i ≤ text.length ∧ e.Spans text i j := by
  have everywhere : (PosSet.upTo text.length).Within text.length :=
    fun i member => PosSet.testBit_upTo.1 member
  have search := fun j => (Expr.realizes_route text false e).testBit_iff everywhere (j := j)
  rw [occursIn, bne_iff_ne]
  constructor
  · intro some
    obtain ⟨j, reached⟩ := Nat.exists_testBit_of_ne_zero some
    obtain ⟨i, start, spans⟩ := (search j).1 reached
    exact ⟨i, j, PosSet.testBit_upTo.1 start, spans⟩
  · rintro ⟨i, j, inside, spans⟩ none
    have reached := (search j).2 ⟨i, PosSet.testBit_upTo.2 inside, spans⟩
    rw [none, Nat.zero_testBit] at reached
    cases reached

end Pattern
end StoryLoom
