import OlapClient.Proofs.Cache.Reads
import OlapClient.Proofs.Cache.Script

namespace OlapClient.Cache

open Location (Url)

/-!
# Asking before reading

Whether a response is held can be asked without reading it. The answer is what a look-up at the same
time would find, and asking leaves no trace.

* `Memory.contains_make` — the answer is what a look-up would find, and fails as it would.
* `Operation.isQuestion`, `withoutQuestions` — operations that only ask, and a run without them.
* `Clocked.run_withoutQuestions`, `Clocked.outcomes_withoutQuestions` — a run without its questions
  ends in the same store, and tells all others the same.
* `contains_predicts_get` — all of it, after any run of a store.
-/

namespace Memory

variable {m : Memory} {now : Nat} {id : SessionId} {url : Url} {request : Bytes}

/-- A session without a partition is one that was never registered. -/
theorem partition_eq_error {e : CacheError} (h : m.partition id = .error e) :
    e = .uninitialized id := by
  unfold partition Registry.partitionOf Registry.lookup at h
  cases hf : m.registry.sessions.find? (·.id == id) with
  | none =>
    rw [hf] at h
    exact (Except.error.inj h).symm
  | some x =>
    rw [hf] at h
    dsimp only [Except.map] at h
    split at h
    · cases h
    · exact (Except.error.inj h).symm

/-- **The answer to a question is what a look-up would find**: there is a response or there is none,
or both fail alike. -/
theorem contains_make (m : Memory) (now : Nat) (id : SessionId) (url : Url) (request : Bytes) :
    (CacheKey.make id url request).bind (m.contains now) =
      (m.get now id url request).map (·.1.isSome) := by
  by_cases hr : request = []
  · rw [CacheKey.make, if_pos hr, get, if_pos hr]
    rfl
  · rw [CacheKey.make, if_neg hr]
    show (m.partition id).map (fun p => p.2.contains now (.of url request)) = _
    cases hp : m.partition id with
    | error e =>
      simp only [get, if_neg hr, hp]
      rfl
    | ok np =>
      obtain ⟨name, p⟩ := np
      rw [get_of_partition hr hp]
      -- a partition looks both up in the same way
      have hsame : p.contains now (.of url request) =
          (Found.response? (p.lookup now (.of url request)).1).isSome := by
        rw [Partition.contains_eq, Partition.lookup_response]
      exact congrArg Except.ok hsame

/-- A look-up of a request that is not empty fails only for a session that was never registered. -/
theorem get_eq_error {e : CacheError} (hr : request ≠ []) (h : m.get now id url request = .error e) :
    e = .uninitialized id := by
  cases hp : m.partition id with
  | error e' =>
    simp only [get, if_neg hr, hp] at h
    cases h
    exact partition_eq_error hp
  | ok np =>
    rw [get_of_partition hr hp] at h
    cases h

end Memory

/-! ### Questions -/

/-- Whether an operation asks if there is a response, and does nothing else. -/
def Operation.isQuestion : Operation → Bool
  | .contains _ _ _ => true
  | _ => false

/-- Operations but for those that only ask. -/
def withoutQuestions (ops : List Operation) : List Operation :=
  ops.filter (!·.isQuestion)

variable {op : Operation}

theorem withoutQuestions_of_question (h : op.isQuestion = true) (ops : List Operation) :
    withoutQuestions (op :: ops) = withoutQuestions ops :=
  List.filter_cons_of_neg (by simp [h])

theorem withoutQuestions_of_other (h : op.isQuestion = false) (ops : List Operation) :
    withoutQuestions (op :: ops) = op :: withoutQuestions ops :=
  List.filter_cons_of_pos (by simp [h])

namespace Clocked

/-- The script of a question writes nothing. -/
theorem readsOnly_question (h : op.isQuestion = true) (now : Nat) : (op.script now).ReadsOnly := by
  cases op with
  | contains id url request =>
    exact (Script.readsOnly_ask now id url request).bind fun _ => Script.readsOnly_pure _
  | _ => cases h

theorem step_question (h : op.isQuestion = true) (s : Clocked) : (s.step op).2 = s := by
  cases op with
  | contains id url request => exact s.step_contains id url request
  | _ => cases h

/-- A run without its questions ends in the same store. -/
theorem run_withoutQuestions (s : Clocked) (ops : List Operation) :
    s.run (withoutQuestions ops) = s.run ops := by
  induction ops generalizing s with
  | nil => rfl
  | cons op ops ih =>
    cases hop : op.isQuestion with
    | true => rw [withoutQuestions_of_question hop, ih, run, step_question hop]
    | false => rw [withoutQuestions_of_other hop, run, ih, run]

/-- Without its questions a run tells the callers of all other operations the same. -/
theorem outcomes_withoutQuestions (s : Clocked) (ops : List Operation) :
    s.outcomes (withoutQuestions ops) =
      ((ops.zip (s.outcomes ops)).filter (!·.1.isQuestion)).map Prod.snd := by
  induction ops generalizing s with
  | nil => rfl
  | cons op ops ih =>
    rw [outcomes, List.zip_cons_cons]
    cases hop : op.isQuestion with
    | true =>
      rw [withoutQuestions_of_question hop, ih, List.filter_cons_of_neg (by simp [hop]),
        step_question hop]
    | false =>
      rw [withoutQuestions_of_other hop, outcomes, ih, List.filter_cons_of_pos (by simp [hop]),
        List.map_cons]

end Clocked

/-- **Asking foretells reading.** After any run of a store that began without sessions, an empty
request has no key to ask by, and reading it fails for the same reason. With a key, the answer is yes
if and only if a look-up at that time would find a response, and no if and only if it would find
none; asking fails if and only if the look-up would, both for a session that was never registered. The
script of a question, which does what the question does, writes nothing. Any number of questions
leaves everything as it was, so that a later run ends in the same store, and tells the callers of all
other operations the same, whether questions are asked in it or not. -/
theorem contains_predicts_get (defaults : Retention) (start : Nat) (ops : List Operation)
    (id : SessionId) (url : Url) (request : Bytes) :
    let s := (Clocked.fresh defaults start).run ops
    let question := Operation.contains id url request
    (request = [] → CacheKey.make id url request = .error .emptyRequest ∧
      s.store.get s.now id url request = .error .emptyRequest) ∧
    (∀ key, CacheKey.make id url request = .ok key →
      (s.store.contains s.now key = .ok true ↔
        ∃ response m, s.store.get s.now id url request = .ok (some response, m)) ∧
      (s.store.contains s.now key = .ok false ↔
        ∃ m, s.store.get s.now id url request = .ok (none, m)) ∧
      (s.store.contains s.now key = .error (.uninitialized id) ↔
        s.store.get s.now id url request = .error (.uninitialized id)) ∧
      (∀ e, s.store.contains s.now key = .error e → e = .uninitialized id) ∧
      (∀ e, s.store.get s.now id url request = .error e → e = .uninitialized id)) ∧
    s.step question = s.perform question ∧ (question.script s.now).ReadsOnly ∧
    (∀ questions : List Operation, (∀ op ∈ questions, op.isQuestion = true) →
      s.run questions = s) ∧
    (∀ later, s.run (withoutQuestions later) = s.run later ∧
      s.outcomes (withoutQuestions later) =
        ((later.zip (s.outcomes later)).filter (!·.1.isQuestion)).map Prod.snd) := by
  intro s question
  refine ⟨fun hr => ⟨if_pos hr, if_pos hr⟩, fun key hkey => ?_, s.step_eq_perform question,
    Clocked.readsOnly_question rfl s.now, fun questions hall => ?_, fun later =>
      ⟨s.run_withoutQuestions later, s.outcomes_withoutQuestions later⟩⟩
  · have hr : request ≠ [] := by
      rintro rfl
      cases hkey
    -- with a key that was made, a question comes to the same as a look-up
    have hsame : s.store.contains s.now key =
        (s.store.get s.now id url request).map (·.1.isSome) := by
      rw [← Memory.contains_make, hkey]
      rfl
    have herror (e : CacheError) (h : s.store.get s.now id url request = .error e) :
        e = .uninitialized id := Memory.get_eq_error hr h
    rw [hsame]
    cases hget : s.store.get s.now id url request with
    | error e =>
      obtain rfl := herror e hget
      simp [Except.map]
    | ok found =>
      obtain ⟨_ | response, m⟩ := found <;> simp [Except.map]
  · have hnone : withoutQuestions questions = [] :=
      List.filter_eq_nil_iff.2 fun op hop => by simp [hall op hop]
    rw [← s.run_withoutQuestions, hnone, Clocked.run]

/-- Room for two entries, of which the first was put a second ago: asking says that it is alive, and so
it is. Having been asked about does not keep it from being given up, and reading it does. A
millisecond later asking says that it is not alive. -/
theorem contains_predicts_get_least_recent :
    let cache : PropertyMap := ((∅ : PropertyMap).insert "Size" "2").insert "Timeout" "1"
    let url : Url := ⟨"http", none, .segments [[]], none, none⟩
    let id : SessionId := ⟨"s1-a"⟩
    let ops : List Operation :=
      [.configure "a" ∅ cache, .put id url [1] [10], .sleep 600, .put id url [2] [20], .sleep 400]
    let s := (Clocked.fresh .standard 0).run ops
    let question := Operation.contains id url [1]
    s.store.contains s.now ⟨id, .of url [1]⟩ = .ok true ∧
      (∃ response m, s.store.get s.now id url [1] = .ok (some response, m)) ∧
      s.run [question, question] = s ∧
      s.outcomes [question, .put id url [3] [30], question] = [.held true, .stored, .held false] ∧
      s.outcomes [.get id url [1], .put id url [3] [30], question] =
        [.found (some [10]), .stored, .held true] ∧
      s.outcomes [.sleep 1, question, .get id url [1]] = [.done, .held false, .found none] := by
  intro cache url id ops s question
  have hr : ([1] : Bytes) ≠ [] := by decide
  obtain ⟨-, hkey, -, -, hquestions, -⟩ := contains_predicts_get .standard 0 ops id url [1]
  have hyes : s.store.contains s.now ⟨id, .of url [1]⟩ = .ok true := by decide +kernel
  obtain ⟨htrue, -⟩ := hkey ⟨id, .of url [1]⟩ (if_neg hr)
  refine ⟨hyes, htrue.1 hyes, hquestions [question, question] fun op hop => ?_, by decide +kernel,
    by decide +kernel, by decide +kernel⟩
  rcases List.mem_pair.1 hop with rfl | rfl <;> rfl

end OlapClient.Cache
