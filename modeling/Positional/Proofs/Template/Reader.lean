import Positional.Template.Basic
import Positional.Proofs.Settings

/-!
# Readers as scans

A reader that was not pulled yet gives what a scan from the start of its template gives, once its
ceiling is settled.  A ceiling from the environment can always be settled.
-/

namespace Positional

namespace Reader

theorem ceiling_given (env : Environment) (given : Int) :
    (ceiling env (some given)).result =
      if Numeral.isWritable given then .ok given else .error .unwritableInteger := by
  simp [ceiling]

theorem ceiling_of_isWritable (env : Environment) {given : Int}
    (h : Numeral.isWritable given = true) :
    (ceiling env (some given)).result = .ok given := by
  rw [ceiling_given, if_pos h]

theorem ceiling_of_not_isWritable (env : Environment) {given : Int}
    (h : ¬ Numeral.isWritable given = true) :
    (ceiling env (some given)).result = .error .unwritableInteger := by
  rw [ceiling_given, if_neg h]

theorem ceiling_unset (env : Environment) :
    (ceiling env none).result = .ok (Settings.maxIndex env).result := by
  have hwritable := Settings.isWritable_maxIndex env
  simp [ceiling, hwritable]

theorem isWritable_of_ceiling {env : Environment} {maxIndex : Option Int} {bound : Int}
    (h : (ceiling env maxIndex).result = .ok bound) : Numeral.isWritable bound = true := by
  cases maxIndex with
  | none =>
      rw [ceiling_unset] at h
      obtain rfl := Except.ok.inj h
      exact Settings.isWritable_maxIndex env
  | some given =>
      rw [ceiling_given] at h
      split at h
      · rename_i hwritable
        obtain rfl := Except.ok.inj h
        exact hwritable
      · cases h

theorem fault_of_ceiling {env : Environment} {maxIndex : Option Int} {fault : Fault}
    (h : (ceiling env maxIndex).result = .error fault) : fault = .unwritableInteger := by
  cases maxIndex with
  | none =>
      rw [ceiling_unset] at h
      cases h
  | some given =>
      rw [ceiling_given] at h
      split at h
      · cases h
      · exact (Except.error.inj h).symm

theorem settle_fresh (env : Environment) (text : String) (maxIndex : Option Int) :
    ((fresh text maxIndex).settle env).result =
      (ceiling env maxIndex).result.map fun ceiling =>
        reading ceiling (Cursor.start text.toList) := by
  simp only [settle, Logged.result_bind]
  cases (ceiling env maxIndex).result <;> rfl

theorem drain_fresh_ok {env : Environment} {text : String} {maxIndex : Option Int} {bound : Int}
    (h : (ceiling env maxIndex).result = .ok bound) :
    ((fresh text maxIndex).drain env).result = Template.drain bound ⟨0, text.toList⟩ := by
  simp only [drain, Logged.result_bind, settle_fresh, h]
  rfl

theorem drain_fresh_unset (env : Environment) (text : String) :
    ((fresh text none).drain env).result =
      Template.drain (Settings.maxIndex env).result ⟨0, text.toList⟩ :=
  drain_fresh_ok (ceiling_unset env)

theorem drain_fresh_error {env : Environment} {text : String} {maxIndex : Option Int}
    {fault : Fault} (h : (ceiling env maxIndex).result = .error fault) :
    ((fresh text maxIndex).drain env).result = ⟨[], some fault⟩ := by
  simp only [drain, Logged.result_bind, settle_fresh, h]
  rfl

/-- A reader gives what it gives with the ceiling that it settles on, whatever the environment is
then. -/
theorem drain_fresh_settled (env other : Environment) (text : String) (maxIndex : Option Int) :
    ((fresh text maxIndex).drain env).result =
      ((fresh text (some (maxIndex.getD (Settings.maxIndex env).result))).drain other).result := by
  cases maxIndex with
  | none =>
      have hwritable := Settings.isWritable_maxIndex env
      rw [drain_fresh_unset, Option.getD_none,
        drain_fresh_ok (ceiling_of_isWritable other hwritable)]
  | some given =>
      rw [Option.getD_some]
      by_cases hwritable : Numeral.isWritable given = true
      · rw [drain_fresh_ok (ceiling_of_isWritable env hwritable),
          drain_fresh_ok (ceiling_of_isWritable other hwritable)]
      · rw [drain_fresh_error (ceiling_of_not_isWritable env hwritable),
          drain_fresh_error (ceiling_of_not_isWritable other hwritable)]

end Reader

namespace Template

/-- A template is parsed exactly if its reader comes to its end without a fault. -/
theorem parse_result (env : Environment) (text : String) (maxIndex : Option Int) :
    (parse env text maxIndex).result =
      match ((Reader.fresh text maxIndex).drain env).result with
      | ⟨segments, none⟩ => .ok ⟨segments⟩
      | ⟨_, some fault⟩ => .error fault := by
  simp only [parse, Logged.result_bind]
  generalize ((Reader.fresh text maxIndex).drain env).result = listing
  obtain ⟨segments, fault⟩ := listing
  cases fault <;> rfl

theorem parse_eq_ok_iff {env : Environment} {text : String} {maxIndex : Option Int}
    {template : Template} :
    (parse env text maxIndex).result = .ok template ↔
      ((Reader.fresh text maxIndex).drain env).result = ⟨template.segments, none⟩ := by
  obtain ⟨parsed⟩ := template
  rw [parse_result]
  obtain ⟨segments, fault⟩ := ((Reader.fresh text maxIndex).drain env).result
  cases fault <;> simp

theorem parse_eq_error_iff {env : Environment} {text : String} {maxIndex : Option Int}
    {fault : Fault} :
    (parse env text maxIndex).result = .error fault ↔
      ((Reader.fresh text maxIndex).drain env).result.fault = some fault := by
  rw [parse_result]
  obtain ⟨segments, end?⟩ := ((Reader.fresh text maxIndex).drain env).result
  cases end? <;> simp

theorem parse_given {bound : Int} (env : Environment) (text : String)
    (h : Numeral.isWritable bound = true) :
    (parse env text (some bound)).result =
      match drain bound ⟨0, text.toList⟩ with
      | ⟨segments, none⟩ => .ok ⟨segments⟩
      | ⟨_, some fault⟩ => .error fault := by
  rw [parse_result, Reader.drain_fresh_ok (Reader.ceiling_of_isWritable env h)]

end Template

end Positional
