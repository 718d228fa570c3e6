/-
This file proves that a session can always be emptied. Operations are erased one after the other,
the latest first, and no erasure fails.

An operation is used only by operations that came later, so the latest operation alive is not used
at all. Erasing it keeps the store sound, and the operation before it is the latest then.
-/

import Polyglot.Proofs.Workspace.Ledger

namespace Polyglot

namespace Operations

/-- These are the operations alive, the latest first. -/
structure Descends (operations : Operations) (refs : List OpRef) : Prop where
  decreasing : refs.Pairwise fun first second => second.number < first.number
  alive : ∀ ref, ref ∈ refs ↔ operations.isAlive ref = true

theorem isAlive_remove_iff (operations : Operations) (ref other : OpRef) :
    (operations.remove ref).isAlive other = true ↔
      other ≠ ref ∧ operations.isAlive other = true := by
  rw [isAlive_iff_mem, isAlive_iff_mem, remove, List.mem_map, List.mem_map]
  constructor
  · rintro ⟨operation, member, rfl⟩
    obtain ⟨inside, differs⟩ := List.mem_filter.mp member
    exact ⟨of_decide_eq_true differs, operation, inside, rfl⟩
  · rintro ⟨differs, operation, member, rfl⟩
    exact ⟨operation, List.mem_filter.mpr ⟨member, decide_eq_true differs⟩, rfl⟩

theorem Sound.descends {operations : Operations} (sound : operations.Sound) :
    operations.Descends (operations.live.map Operation.ref).reverse where
  decreasing := List.pairwise_reverse.mpr (List.pairwise_map.mpr sound.increasing)
  alive ref := by rw [List.mem_reverse, isAlive_iff_mem]

namespace Descends

variable {operations : Operations} {latest : OpRef} {rest : List OpRef}

/-- The latest operation alive is not used, as its users would be later. -/
theorem isUsed_eq_false (descends : operations.Descends (latest :: rest))
    (sound : operations.Sound) : operations.isUsed latest = false := by
  refine (isUsed_eq_false_iff operations latest).mpr fun user member operand taken same => ?_
  have found := sound.find?_ref user member
  have later : latest.number < user.ref.number :=
    sound.number_lt_of_uses ⟨user, found, operand, taken, same⟩
  have listed : user.ref ∈ latest :: rest :=
    (descends.alive user.ref).mpr ((isAlive_iff operations user.ref).mpr ⟨user, found⟩)
  rcases List.mem_cons.mp listed with itself | earlier
  · exact Nat.lt_irrefl _ (itself ▸ later)
  · have smaller := (List.pairwise_cons.mp descends.decreasing).1 user.ref earlier
    exact Nat.lt_asymm smaller later

theorem remove (descends : operations.Descends (latest :: rest)) :
    (operations.remove latest).Descends rest := by
  obtain ⟨smaller, decreasing⟩ := List.pairwise_cons.mp descends.decreasing
  refine ⟨decreasing, fun ref => ?_⟩
  rw [isAlive_remove_iff, ← descends.alive, List.mem_cons]
  constructor
  · intro listed
    refine ⟨fun same => ?_, .inr listed⟩
    exact Nat.lt_irrefl _ (same ▸ smaller ref listed)
  · rintro ⟨differs, listed⟩
    exact listed.resolve_left differs

theorem live_eq_nil (descends : operations.Descends []) : operations.live = [] := by
  refine List.eq_nil_iff_forall_not_mem.mpr fun operation member => ?_
  have alive : operations.isAlive operation.ref = true :=
    (isAlive_iff_mem operations operation.ref).mpr (List.mem_map_of_mem member)
  exact absurd ((descends.alive operation.ref).mpr alive) List.not_mem_nil

end Descends

end Operations

namespace Workspace

variable {Custom : Type}

/-- The latest operation alive can be erased, which leaves those before it. -/
theorem erase_latest (workspace : Workspace Custom) (sound : workspace.session.operations.Sound)
    {latest : OpRef} {rest : List OpRef}
    (descends : workspace.session.operations.Descends (latest :: rest)) :
    ∃ after, workspace.session.erase latest = .ok after ∧
      (workspace.perform (.erase latest)).session = after ∧ after.operations.Sound ∧
      after.operations.Descends rest := by
  have alive := (descends.alive latest).mp List.mem_cons_self
  have unused := descends.isUsed_eq_false sound
  have erases := workspace.session.erases latest
  obtain ⟨after, success⟩ := erases.exists_ok_iff.mpr
    ⟨alive, (Operations.isUsed_eq_false_iff _ _).mp unused⟩
  rw [success] at erases
  obtain ⟨_, rfl⟩ := erases.eq_of_ok
  exact ⟨_, success, by rw [perform, eraseOrKeep, success], sound.remove latest unused,
    descends.remove⟩

/-- From a sound store, all operations can be erased, the latest first. -/
theorem drains (workspace : Workspace Custom) (refs : List OpRef)
    (sound : workspace.session.operations.Sound)
    (descends : workspace.session.operations.Descends refs) :
    (∀ front ref back, refs = front ++ ref :: back → ∃ after,
      (workspace.performAll (front.map .erase)).session.erase ref = .ok after) ∧
    (workspace.performAll (refs.map .erase)).session.operations.live = [] := by
  induction refs generalizing workspace with
  | nil => exact ⟨by simp, descends.live_eq_nil⟩
  | cons latest rest inductionHypothesis =>
    obtain ⟨after, success, performed, soundAfter, descendsAfter⟩ :=
      workspace.erase_latest sound descends
    obtain ⟨succeed, emptied⟩ := inductionHypothesis (workspace.perform (.erase latest))
      (performed ▸ soundAfter) (performed ▸ descendsAfter)
    refine ⟨fun front ref back split => ?_, emptied⟩
    cases front with
    | nil =>
      obtain ⟨rfl, rfl⟩ := List.cons.inj split
      exact ⟨after, success⟩
    | cons first others =>
      obtain ⟨rfl, tail⟩ := List.cons.inj split
      exact succeed others ref back tail

/-- At every time of the life of a session its operations can be erased one after the other, the
latest first: every erasure succeeds, and no operation is left. So as long as there are operations,
one of them can be erased. -/
theorem Life.drained {workspace : Workspace Custom} {past : List (Workspace Custom)}
    (life : Life (workspace :: past)) :
    (∃ refs, workspace.session.operations.Descends refs) ∧
    (∀ refs, workspace.session.operations.Descends refs →
      (∀ front ref back, refs = front ++ ref :: back → ∃ after,
        (workspace.performAll (front.map .erase)).session.erase ref = .ok after) ∧
      (workspace.performAll (refs.map .erase)).session.operations.live = []) ∧
    (workspace.session.operations.live ≠ [] → ∃ operation ∈ workspace.session.operations.live,
      ∃ after, workspace.session.erase operation.ref = .ok after) := by
  have sound := life.sound.1
  refine ⟨⟨_, sound.descends⟩, fun refs descends => workspace.drains refs sound descends,
    fun inhabited => ?_⟩
  have descends := sound.descends
  cases listed : (workspace.session.operations.live.map Operation.ref).reverse with
  | nil => simp [inhabited] at listed
  | cons latest rest =>
    rw [listed] at descends
    obtain ⟨after, success, _⟩ := workspace.erase_latest sound descends
    obtain ⟨operation, member, rfl⟩ := List.mem_map.mp
      ((Operations.isAlive_iff_mem _ _).mp ((descends.alive latest).mp List.mem_cons_self))
    exact ⟨operation, member, after, success⟩

theorem drained_withTwins :
    Life [withTwins, withNote, withPair, blank] ∧
      withTwins.session.operations.Descends [⟨2⟩, ⟨1⟩, ⟨0⟩] ∧
      withTwins.session.operations.isUsed ⟨0⟩ = true ∧
      (∃ after,
        (withTwins.performAll [.erase ⟨2⟩, .erase ⟨1⟩]).session.erase ⟨0⟩ = .ok after) ∧
      (withTwins.performAll [.erase ⟨2⟩, .erase ⟨1⟩, .erase ⟨0⟩]).session.operations.live = [] ∧
      ∃ operation ∈ withTwins.session.operations.live,
        ∃ after, withTwins.session.erase operation.ref = .ok after := by
  obtain ⟨_, drains, erasable⟩ := life_withTwins.drained
  have descends := life_withTwins.sound.1.descends
  have listed : (withTwins.session.operations.live.map Operation.ref).reverse =
      [⟨2⟩, ⟨1⟩, ⟨0⟩] := by decide +kernel
  rw [listed] at descends
  obtain ⟨succeed, emptied⟩ := drains _ descends
  refine ⟨life_withTwins, descends, by decide +kernel, succeed [⟨2⟩, ⟨1⟩] ⟨0⟩ [] rfl, emptied,
    erasable fun none => ?_⟩
  rw [none] at listed
  cases listed

end Workspace

end Polyglot
