import Credentials.View

/-!
# Attributes of a view

What a view shows under a name: its role, the names of the groups that the role exposes, and these
groups, and no other, under the names of their accessors. A view is read-only.

Main statement: `View.attribute_of_hidden`, a group that the role does not see is no attribute at
all.
-/

namespace Credentials

/-- What a view shows under a name. -/
def View.attribute (v : View) (name : String) : Except Error Raw :=
  match Group.all.find? fun g => v.role.exposes g && View.accessor g == name with
  | some g => .ok ((v.group? g).getD .null)
  | none =>
    if name = "role" then .ok (.role v.role)
    else if name = "exposed_groups" then
      .ok (.set (v.role.exposedGroups.map fun g => .text g.name))
    else .error (.noAttribute v.role.viewName name)

theorem View.attribute_of_hidden {v : View} {g : Group} (h : v.role.exposes g = false) :
    v.attribute (View.accessor g) = .error (.noAttribute v.role.viewName (View.accessor g)) := by
  have hnone : Group.all.find? (fun k => v.role.exposes k && View.accessor k == View.accessor g)
      = none := by
    rw [List.find?_eq_none]
    intro k _ hk
    obtain ⟨he, ha⟩ := (Bool.and_eq_true _ _).mp hk
    have ha' : View.accessor k = View.accessor g := by simpa using ha
    have hkg : k = g := by
      revert ha'
      cases k <;> cases g <;> decide
    rw [hkg, h] at he
    exact Bool.false_ne_true he
  have hrole : View.accessor g ≠ "role" := by cases g <;> decide
  have hgroups : View.accessor g ≠ "exposed_groups" := by cases g <;> decide
  simp [View.attribute, hnone, hrole, hgroups]

/-- Why nothing is assigned to a view. -/
def View.readOnlyFault (v : View) : Error := .readOnly v.role.viewName

end Credentials
