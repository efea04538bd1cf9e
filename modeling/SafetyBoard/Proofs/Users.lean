import Mathlib.Data.List.Nodup
import SafetyBoard.Users

/-!
# Whom a source reports for

A source reports for the parent of a group and, if it supports them, for the running profiles: for
users of the group, in the order in which the group names them.
-/

namespace SafetyBoard

namespace UserGroup

variable {g : UserGroup}

theorem reportingUsers_sublist (supportsManaged : Bool) :
    (g.reportingUsers supportsManaged).Sublist g.users := by
  apply List.Sublist.cons_cons
  split
  · exact List.filter_sublist.map _
  · exact List.nil_sublist _

theorem mem_users_of_reporting {supportsManaged : Bool} {user : UserId}
    (h : user ∈ g.reportingUsers supportsManaged) : user ∈ g.users :=
  (reportingUsers_sublist supportsManaged).subset h

theorem members_sublist (supportsManaged : Bool) :
    ((g.members supportsManaged).map (·.userId)).Sublist g.users := by
  apply List.Sublist.cons_cons
  cases supportsManaged with
  | true =>
    rw [if_pos rfl, List.map_map]
    exact List.Sublist.refl _
  | false => exact List.nil_sublist _

theorem mem_users_of_member {supportsManaged : Bool} {m : Member}
    (h : m ∈ g.members supportsManaged) : m.userId ∈ g.users :=
  (members_sublist supportsManaged).subset (List.mem_map_of_mem h)

theorem mem_reportingUsers {supportsManaged : Bool} {user : UserId} :
    user ∈ g.reportingUsers supportsManaged ↔ user = g.parent ∨
      supportsManaged = true ∧ ∃ p ∈ g.managed, p.running = true ∧ p.userId = user := by
  rw [reportingUsers, List.mem_cons]
  cases supportsManaged
  · simp
  · simp [runningManaged, and_assoc]

theorem reporting_of_awake {supportsManaged : Bool} {m : Member}
    (h : m ∈ g.members supportsManaged) (awake : m.isPaused = false) :
    m.userId ∈ g.reportingUsers supportsManaged := by
  rw [mem_reportingUsers]
  rcases List.mem_cons.mp h with rfl | managed
  · exact Or.inl rfl
  · split at managed
    · next supports =>
      obtain ⟨p, profile, rfl⟩ := List.mem_map.mp managed
      have running : p.running = true := by simpa [Member.isPaused] using awake
      exact Or.inr ⟨supports, p, profile, running, rfl⟩
    · cases managed

theorem isPaused_of_stopped (distinct : g.users.Nodup) {supportsManaged : Bool} {m : Member}
    (member : m ∈ g.members supportsManaged) {p : ManagedProfile} (profile : p ∈ g.managed)
    (stopped : p.running = false) (same : p.userId = m.userId) : m.isPaused = true := by
  obtain ⟨apart, profiles⟩ := List.nodup_cons.mp distinct
  rcases List.mem_cons.mp member with rfl | managed
  · exact absurd (List.mem_map.mpr ⟨p, profile, same⟩) apart
  · split at managed
    · obtain ⟨p', profile', rfl⟩ := List.mem_map.mp managed
      have one : p = p' := List.inj_on_of_nodup_map profiles profile profile' same
      rw [← one]
      simp [Member.isPaused, stopped]
    · cases managed

end UserGroup

end SafetyBoard
