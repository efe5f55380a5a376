/-
# Names that two components share

The name of a component joins the name of its cluster and its role by a hyphen, and both
may have hyphens in them. So two components share a name not only if they are one: the
hyphen at which one of them is joined may stand inside the other's role. Then the name of
the other cluster goes on, behind a hyphen, with the start of this role. For one role no
two clusters share a name.

Key definitions: `Naming.Overlaps`, `Naming.Collide`.
Key theorems: `Naming.append_cons_eq_iff`, `Naming.resourceName_eq_iff`,
`Naming.names_collide_iff`.
-/
import ControllerSynthesis.Proofs.Synthesis.Selection

namespace ControllerSynthesis.Naming

/-- Whether the role can be cut at a hyphen so that its start, behind a hyphen, belongs to
the name of the other cluster and its rest is the other role. -/
def Overlaps (cluster role other otherRole : String) : Prop :=
  ∃ start, other = cluster ++ "-" ++ start ∧ role = start ++ "-" ++ otherRole

/-- Whether objects of one kind with such metadata are taken for one: they have one name in
one namespace. -/
def Collide (a b : Metadata) : Prop :=
  a.namespaceName = b.namespaceName ∧ a.name = b.name

/-- Lists that are joined at a mark are the same exactly if their parts are, or one front
goes on, behind the mark, with the start of what the other has behind its mark. -/
theorem append_cons_eq_iff {α : Type} {mark : α} {a b x y : List α} : a ++ mark :: x = b ++ mark :: y ↔
    a = b ∧ x = y ∨ (∃ p, b = a ++ mark :: p ∧ x = p ++ mark :: y) ∨
      ∃ p, a = b ++ mark :: p ∧ y = p ++ mark :: x := by
  -- What the longer front has more begins with the mark that the shorter one has behind it.
  have shorter {a b x y q : List α} (longer : b = a ++ q) (behind : mark :: x = q ++ mark :: y) :
      a = b ∧ x = y ∨ ∃ p, b = a ++ mark :: p ∧ x = p ++ mark :: y := by
    cases q with
    | nil =>
      obtain ⟨-, same⟩ := List.cons.inj behind
      exact .inl ⟨by rw [longer, List.append_nil], same⟩
    | cons first p =>
      obtain ⟨rfl, rest⟩ := List.cons.inj behind
      exact .inr ⟨p, longer, rest⟩
  constructor
  · intro same
    rcases List.append_eq_append_iff.mp same with ⟨q, longer, behind⟩ | ⟨q, longer, behind⟩
    · rcases shorter longer behind with whole | cut
      · exact .inl whole
      · exact .inr (.inl cut)
    · rcases shorter longer behind with ⟨fronts, rests⟩ | cut
      · exact .inl ⟨fronts.symm, rests.symm⟩
      · exact .inr (.inr cut)
  · rintro (⟨rfl, rfl⟩ | ⟨p, rfl, rfl⟩ | ⟨p, rfl, rfl⟩)
    · rfl
    · simp
    · simp

variable {cluster role other otherRole : String}

theorem toList_resourceName (cluster role : String) :
    (resourceName cluster role).toList = cluster.toList ++ '-' :: role.toList := by
  simp [resourceName]

theorem overlaps_iff : Overlaps cluster role other otherRole ↔
    ∃ p, other.toList = cluster.toList ++ '-' :: p ∧ role.toList = p ++ '-' :: otherRole.toList := by
  constructor
  · rintro ⟨start, rfl, rfl⟩
    exact ⟨start.toList, by simp, by simp⟩
  · rintro ⟨p, name, part⟩
    exact ⟨String.ofList p, String.toList_inj.mp (by simp [name]), String.toList_inj.mp (by simp [part])⟩

/-- **Which names are the same**: those of one component, and those of two whose cluster
names and roles overlap. -/
theorem resourceName_eq_iff : resourceName cluster role = resourceName other otherRole ↔
    (cluster, role) = (other, otherRole) ∨ Overlaps cluster role other otherRole ∨
      Overlaps other otherRole cluster role := by
  rw [← String.toList_inj, toList_resourceName, toList_resourceName, append_cons_eq_iff, overlaps_iff, overlaps_iff,
    Prod.mk.injEq, String.toList_inj, String.toList_inj]

/-- The other role is a proper end of the role. -/
theorem Overlaps.role_ne (overlaps : Overlaps cluster role other otherRole) : role ≠ otherRole := by
  obtain ⟨p, -, part⟩ := overlaps_iff.mp overlaps
  rintro rfl
  have length := congrArg List.length part
  simp only [List.length_append, List.length_cons] at length
  omega

/-- **Exactly which names collide.** Two components share a name if and only if they are
one, or the name of one cluster goes on, behind a hyphen, with the start of the other's
role up to the hyphen in front of its own role. So for one role no two clusters share a
name, and for different roles objects of one kind collide if and only if they are in one
namespace and overlap in this way. -/
theorem names_collide_iff (cluster role ns other otherRole ns' : String) :
    (resourceName cluster role = resourceName other otherRole ↔
      (cluster, role) = (other, otherRole) ∨ Overlaps cluster role other otherRole ∨
        Overlaps other otherRole cluster role) ∧
    (resourceName cluster role = resourceName other role ↔ cluster = other) ∧
    (role ≠ otherRole ∧ Collide (metadata cluster ns role) (metadata other ns' otherRole) ↔
      ns = ns' ∧ (Overlaps cluster role other otherRole ∨ Overlaps other otherRole cluster role)) := by
  refine ⟨resourceName_eq_iff, resourceName_inj, ?_⟩
  have collide_iff : Collide (metadata cluster ns role) (metadata other ns' otherRole) ↔
      ns = ns' ∧ resourceName cluster role = resourceName other otherRole := by
    simp [Collide, metadata]
  rw [collide_iff, resourceName_eq_iff]
  constructor
  · rintro ⟨different, same, ⟨rfl, rfl⟩ | overlap⟩
    · exact absurd rfl different
    · exact ⟨same, overlap⟩
  · rintro ⟨same, overlap⟩
    refine ⟨?_, same, .inr overlap⟩
    rcases overlap with overlap | overlap
    · exact overlap.role_ne
    · exact overlap.role_ne.symm

/-- The role of the controller has a hyphen in it, so another role could take its name. -/
example : resourceName "a" controllerRole = resourceName "a-pravega" "controller" := rfl

end ControllerSynthesis.Naming
