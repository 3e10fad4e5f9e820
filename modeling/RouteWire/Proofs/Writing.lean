import RouteWire.Script
/-!
Scripts that run to their end. `toExcept` gives the octets of such a script, and a script that is put
together from others runs to its end exactly when all of them do.

Main statements: `append_ok`, `concat_map_ok`, `concat_map_failed` for scripts that fail, and
`run_none_iff` for sinks without limit.
-/
namespace RouteWire.Script
variable {ε ε' : Type} {script : Script ε} {octets : List UInt8}

theorem toExcept_ok :
    script.toExcept = .ok octets ↔ script.failure = none ∧ script.octets = octets := by
  rw [toExcept]
  cases script.failure <;> simp

theorem toExcept_of_failure (runs : script.failure = none) : script.toExcept = .ok script.octets :=
  toExcept_ok.mpr ⟨runs, rfl⟩

theorem run_none_iff : script.run none = (octets, none) ↔ script.toExcept = .ok octets := by
  rw [toExcept_ok, run, Prod.mk.injEq, and_comm]

@[simp] theorem done_ok : (done : Script ε).toExcept = .ok octets ↔ octets = [] := by
  rw [toExcept_ok, failure_done, octets_done, eq_comm (b := octets), eq_self, true_and]

@[simp] theorem fail_ok {error : ε} : (fail error : Script ε).toExcept = .ok octets ↔ False := by
  simp [toExcept_ok]

@[simp] theorem check_ok {error : Option ε} :
    (check error : Script ε).toExcept = .ok octets ↔ error = none ∧ octets = [] := by
  rw [toExcept_ok, eq_comm (b := octets)]
  exact Iff.rfl

@[simp] theorem emit_ok [SinkFull ε] {written : List UInt8} :
    (emit written : Script ε).toExcept = .ok octets ↔ octets = written := by
  rw [toExcept_ok, failure_emit, octets_emit, eq_comm (b := octets), eq_self, true_and]

@[simp] theorem mapError_ok {wrap : ε → ε'} :
    (script.mapError wrap).toExcept = .ok octets ↔ script.toExcept = .ok octets := by
  simp [toExcept_ok]

theorem append_ok {first second : Script ε} :
    (first ++ second).toExcept = .ok octets ↔
      ∃ front back, first.toExcept = .ok front ∧ second.toExcept = .ok back ∧
        octets = front ++ back := by
  simp only [toExcept_ok, failure_append, octets_append]
  cases first.failure with
  | some error => simp
  | none =>
    simp only [Option.isSome_none, Bool.false_eq_true, if_false, true_and, eq_comm (b := octets)]
    constructor
    · rintro ⟨runs, rfl⟩
      exact ⟨_, _, rfl, ⟨runs, rfl⟩, rfl⟩
    · rintro ⟨_, _, rfl, ⟨runs, rfl⟩, rfl⟩
      exact ⟨runs, rfl⟩

theorem check_append_ok {error : Option ε} {second : Script ε} :
    (check error ++ second).toExcept = .ok octets ↔ error = none ∧ second.toExcept = .ok octets := by
  simp [append_ok, and_assoc]

theorem emit_append_ok [SinkFull ε] {written : List UInt8} {second : Script ε} :
    (emit written ++ second).toExcept = .ok octets ↔
      ∃ back, second.toExcept = .ok back ∧ octets = written ++ back := by
  simp [append_ok]

theorem concat_cons (script : Script ε) (scripts : List (Script ε)) :
    concat (script :: scripts) = script ++ concat scripts := rfl

theorem concat_map_ok {α : Type} {write : α → Script ε} {elements : List α} :
    (concat (elements.map write)).toExcept = .ok octets ↔
      (∀ element ∈ elements, (write element).failure = none) ∧
        octets = elements.flatMap fun element => (write element).octets := by
  induction elements generalizing octets with
  | nil => simp [concat]
  | cons element elements ih =>
    rw [List.map_cons, concat_cons, append_ok, List.forall_mem_cons, List.flatMap_cons]
    constructor
    · rintro ⟨front, back, first, later, rfl⟩
      obtain ⟨runs, rfl⟩ := toExcept_ok.mp first
      obtain ⟨others, rfl⟩ := ih.mp later
      exact ⟨⟨runs, others⟩, rfl⟩
    · rintro ⟨⟨runs, others⟩, rfl⟩
      exact ⟨_, _, toExcept_of_failure runs, ih.mpr ⟨others, rfl⟩, rfl⟩

theorem concat_map_failed {α : Type} {write : α → Script ε} {elements : List α} {error : ε}
    (failed : (concat (elements.map write)).failure = some error) :
    ∃ before element later, elements = before ++ element :: later ∧
      (∀ earlier ∈ before, (write earlier).failure = none) ∧ (write element).failure = some error ∧
        (concat (elements.map write)).octets =
          (before.flatMap fun earlier => (write earlier).octets) ++ (write element).octets := by
  induction elements with
  | nil => cases failed
  | cons first others ih =>
    rw [List.map_cons, concat_cons, failure_append] at failed
    rw [List.map_cons, concat_cons, octets_append]
    cases here : (write first).failure with
    | some cause =>
      rw [here] at failed
      cases failed
      exact ⟨[], first, others, rfl, List.forall_mem_nil _, here, List.append_nil _⟩
    | none =>
      rw [here] at failed
      obtain ⟨before, element, later, rfl, runs, stopped, written⟩ := ih failed
      refine ⟨first :: before, element, later, rfl, List.forall_mem_cons.mpr ⟨here, runs⟩, stopped, ?_⟩
      rw [written, List.flatMap_cons, List.append_assoc]
      rfl

end RouteWire.Script
