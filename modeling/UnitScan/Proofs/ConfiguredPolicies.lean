import UnitScan.Configuration

/-!
# Policies of configurations

A configuration chooses nothing but the comment marker of its policy. In all else the policy is
the standard one, so its classes of characters are known.
-/

namespace UnitScan.Configuration

/-- Without any settings the policy is the standard one. -/
theorem policy_default : policy {} = .ok .standard := Policy.Settings.accept_eq_ok_iff.mpr rfl

variable {c : Configuration} {p : Policy} (h : c.policy = .ok p)

include h

/-- A configuration chooses nothing but the comment marker. -/
theorem settings_eq : p.settings = { comment := c.comment } :=
  Policy.Settings.accept_eq_ok_iff.mp h

theorem continuation_eq_true : p.settings.continuation = true := by
  rw [settings_eq h]

theorem startsIdent_eq (x : Char) : p.startsIdent x = Policy.standard.startsIdent x := by
  simp only [Policy.startsIdent, settings_eq h]
  rfl

theorem continuesIdent_eq (x : Char) : p.continuesIdent x = Policy.standard.continuesIdent x := by
  simp only [Policy.continuesIdent, settings_eq h]
  rfl

theorem isBlank_eq (x : Char) : p.isBlank x = Policy.standard.isBlank x := by
  simp only [Policy.isBlank, settings_eq h]
  rfl

theorem isBlank_space : p.isBlank ' ' = true := by
  rw [isBlank_eq h]
  decide

theorem startsIdent_escape : p.startsIdent '\x1b' = false := by
  rw [startsIdent_eq h]
  decide

theorem continuesIdent_escape : p.continuesIdent '\x1b' = false := by
  rw [continuesIdent_eq h]
  decide

end UnitScan.Configuration
