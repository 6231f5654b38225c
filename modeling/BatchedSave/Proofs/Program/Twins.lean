import BatchedSave.Proofs.Program.Masking

/-!
# Two runs side by side

`Impartial` says of two traces that nothing in the surroundings looks at a value: as long as the
requests agree once they are masked, so do the answers, but for the values in rows of generated
values. Two programs are `Twins` if they keep making such requests however they are answered in such
a way. This is closed under sequencing, so that it is shown part by part, and it carries over to any
two runs (`Twins.runs`). Which rows hold generated values is told by the requests themselves: a
`Reading` follows which command's result is being read.
-/
namespace BatchedSave

/-- The commands whose fragments have been asked for since the last statement was sent, and those of
that statement whose results have not been left yet; the current one is the first. -/
structure Reading where
  written : List Command := []
  ahead : List Command := []

namespace Reading

/-- The result being read is that of a command with read columns. -/
def Generates (k : Reading) : Prop :=
  ∃ c, k.ahead.head? = some c ∧ c.readCount ≠ 0

/-- The reading after a call that came back. -/
def heard (k : Reading) : (call : StoreCall) → Except Error call.Result → Reading
  | .query _, _ => ⟨[], k.written⟩
  | .reader .nextSet, .ok true => { k with ahead := k.ahead.tail }
  | _, _ => k

def after (k : Reading) : Exchange → Reading
  | ⟨.fragment c, _⟩ => { k with written := k.written ++ [c] }
  | ⟨.store call, result⟩ => k.heard call result
  | ⟨.await call, some result⟩ => k.heard call result
  | _ => k

end Reading

/-- Two exchanges are answered alike: with the same, or each with a generated value. -/
def Told (k : Reading) (x x' : Exchange) : Prop :=
  HEq x.answer x'.answer ∨ k.Generates ∧ x.delivery?.isSome ∧ x'.delivery?.isSome

/-- As long as two traces agree in their masked requests, they agree in the answers. -/
def Impartial : Reading → List Exchange → List Exchange → Prop
  | k, x :: rest, x' :: rest' => x.request.masked = x'.request.masked →
    Told k x x' ∧ Impartial (k.after x) rest rest'
  | _, _, _ => True

/-! ### Answers -/

theorem StoreCall.masked_result (call : StoreCall) : call.masked.Result = call.Result := by
  cases call <;> rfl

theorem Request.masked_answer (r : Request) : r.masked.Answer = r.Answer := by
  cases r with
  | store call => exact congrArg (Except Error) call.masked_result
  | await call => exact congrArg (fun α => Option (Except Error α)) call.masked_result
  | _ => rfl

instance : (call : ReaderCall) → DecidableEq call.Result
  | .nextSet | .nextRow => inferInstanceAs (DecidableEq Bool)
  | .value _ => inferInstanceAs (DecidableEq Value)

instance : (call : StoreCall) → DecidableEq call.Result
  | .connect | .query _ => inferInstanceAs (DecidableEq Unit)
  | .change _ => inferInstanceAs (DecidableEq Nat)
  | .scalar _ => inferInstanceAs (DecidableEq Value)
  | .reader call => inferInstanceAs (DecidableEq call.Result)

instance : (r : Request) → DecidableEq r.Answer
  | .header | .footer => inferInstanceAs (DecidableEq String)
  | .fragment _ => inferInstanceAs (DecidableEq Rendering)
  | .mayAdd .. | .cancelled => inferInstanceAs (DecidableEq Bool)
  | .accepts _ => inferInstanceAs (DecidableEq (Except Error Bool))
  | .store call => inferInstanceAs (DecidableEq (Except Error call.Result))
  | .await call => inferInstanceAs (DecidableEq (Option (Except Error call.Result)))
  | .settings => inferInstanceAs (DecidableEq Settings)
  | .fieldCount => inferInstanceAs (DecidableEq Nat)
  | .close | .writeBack .. | .pull _ | .record _ | .log _ => inferInstanceAs (DecidableEq Unit)

instance (k : Reading) : Decidable k.Generates :=
  decidable_of_iff (∃ c ∈ k.ahead.head?, c.readCount ≠ 0) Iff.rfl

/-- Whether two exchanges whose requests agree once they are masked are answered alike. -/
def Told.decide (k : Reading) (x x' : Exchange)
    (same : x.request.masked = x'.request.masked) : Decidable (Told k x x') :=
  have answers : x.request.Answer = x'.request.Answer := by
    rw [← x.request.masked_answer, same, x'.request.masked_answer]
  have : Decidable (HEq x.answer x'.answer) :=
    decidable_of_iff (cast answers x.answer = x'.answer) cast_eq_iff_heq
  inferInstanceAs (Decidable (_ ∨ _))

instance Impartial.decide : (k : Reading) → (trace trace' : List Exchange) →
    Decidable (Impartial k trace trace')
  | k, x :: rest, x' :: rest' =>
    if same : x.request.masked = x'.request.masked then
      have := Told.decide k x x' same
      have := Impartial.decide (k.after x) rest rest'
      decidable_of_iff (Told k x x' ∧ Impartial (k.after x) rest rest')
        ⟨fun told _ => told, fun told => told same⟩
    else isTrue fun agree => absurd agree same
  | _, [], _ => isTrue trivial
  | _, _ :: _, [] => isTrue trivial

namespace Exchange

/-- A call that may be dropped delivers what one that is waited for delivers. -/
theorem delivery?_await (call : StoreCall) (result : Except Error call.Result) :
    delivery? ⟨.await call, some result⟩ = delivery? ⟨.store call, result⟩ := by
  cases call with
  | reader call => cases call <;> cases result <;> rfl
  | _ => rfl

theorem delivery?_dropped (call : StoreCall) : delivery? ⟨.await call, none⟩ = none := by
  cases call with
  | reader call => cases call <;> rfl
  | _ => rfl

end Exchange

section

variable {k : Reading}

/-- What a request that delivers no value is answered is the same in both. -/
theorem Told.same {r r' : Request} {answer : r.Answer} {answer' : r'.Answer}
    (told : Told k ⟨r, answer⟩ ⟨r', answer'⟩)
    (silent : Exchange.delivery? ⟨r, answer⟩ = none) : HEq answer answer' := by
  rcases told with same | ⟨-, delivers, -⟩
  · exact same
  · rw [silent] at delivers
    cases delivers

theorem option_heq {α β : Type} (types : α = β) {a : Option α} {b : Option β} (same : HEq a b) :
    (a = none ∧ b = none) ∨ ∃ x y, a = some x ∧ b = some y ∧ HEq x y := by
  subst types
  obtain rfl := eq_of_heq same
  cases a with
  | none => exact .inl ⟨rfl, rfl⟩
  | some x => exact .inr ⟨x, x, rfl, rfl, .rfl⟩

/-- A call that may be dropped is dropped in both, or comes back in both like one that is waited
for. -/
theorem Told.awaited {call call' : StoreCall} (same : call.masked = call'.masked)
    {answer : Option (Except Error call.Result)} {answer' : Option (Except Error call'.Result)}
    (told : Told k ⟨.await call, answer⟩ ⟨.await call', answer'⟩) :
    (answer = none ∧ answer' = none) ∨ ∃ result result', answer = some result ∧
      answer' = some result' ∧ Told k ⟨.store call, result⟩ ⟨.store call', result'⟩ := by
  have results : call.Result = call'.Result := by
    rw [← call.masked_result, same, call'.masked_result]
  rcases told with alike | ⟨generates, delivers, delivers'⟩
  · rcases option_heq (congrArg (Except Error) results) alike with
      dropped | ⟨result, result', rfl, rfl, same⟩
    · exact .inl dropped
    · exact .inr ⟨result, result', rfl, rfl, .inl same⟩
  · cases answer with
    | none => exact absurd delivers (by rw [Exchange.delivery?_dropped]; decide)
    | some result =>
      cases answer' with
      | none => exact absurd delivers' (by rw [Exchange.delivery?_dropped]; decide)
      | some result' =>
        rw [Exchange.delivery?_await] at delivers delivers'
        exact .inr ⟨result, result', rfl, rfl, .inr ⟨generates, delivers, delivers'⟩⟩

end

namespace Program

variable {α β α' β' ε : Type} {k : Reading}

/-- Two programs that make the same masked requests as long as they are answered alike; what they
come to is then related by `Q`. -/
inductive Twins (Q : Reading → α → α' → Prop) : Reading → Program α → Program α' → Prop
  | done {k : Reading} {a : α} {a' : α'} (holds : Q k a a') : Twins Q k (.done a) (.done a')
  | ask {k : Reading} {r r' : Request} {next : r.Answer → Program α}
      {next' : r'.Answer → Program α'} (same : r.masked = r'.masked)
      (rest : ∀ answer answer', Told k ⟨r, answer⟩ ⟨r', answer'⟩ →
        Twins Q (k.after ⟨r, answer⟩) (next answer) (next' answer')) :
      Twins Q k (.ask r next) (.ask r' next')

/-- Runs of twins in impartial surroundings make the same masked requests. -/
theorem Twins.runs {Q : Reading → α → α' → Prop} {p : Program α} {p' : Program α'}
    (twins : Twins Q k p p') {trace trace' : List Exchange} {a : α} {a' : α'}
    (run : p.Runs trace a) (run' : p'.Runs trace' a') (impartial : Impartial k trace trace') :
    trace.map (·.request.masked) = trace'.map (·.request.masked) ∧ ∃ k', Q k' a a' := by
  induction twins generalizing trace trace' with
  | done holds =>
    obtain ⟨rfl, rfl⟩ := runs_done_iff.mp run
    obtain ⟨rfl, rfl⟩ := runs_done_iff.mp run'
    exact ⟨rfl, _, holds⟩
  | ask same rest ih =>
    obtain ⟨answer, trace, rfl, more⟩ := runs_ask_iff.mp run
    obtain ⟨answer', trace', rfl, more'⟩ := runs_ask_iff.mp run'
    obtain ⟨told, impartial⟩ := impartial same
    obtain ⟨requests, ends⟩ := ih answer answer' told more more' impartial
    refine ⟨?_, ends⟩
    rw [List.map_cons, List.map_cons, requests, same]

theorem Twins.bind {Q : Reading → α → α' → Prop} {R : Reading → β → β' → Prop} {p : Program α}
    {p' : Program α'} {f : α → Program β} {f' : α' → Program β'} (first : Twins Q k p p')
    (second : ∀ k a a', Q k a a' → Twins R k (f a) (f' a')) : Twins R k (p >>= f) (p' >>= f') := by
  induction first with
  | done holds => exact second _ _ _ holds
  | ask same rest ih => exact .ask same ih

/-- Both attempts succeed with related results, or both fail with the same error. -/
inductive Agree (Q : Reading → α → α' → Prop) (k : Reading) : Except ε α → Except ε α' → Prop
  | error (e : ε) : Agree Q k (.error e) (.error e)
  | ok {a : α} {a' : α'} (holds : Q k a a') : Agree Q k (.ok a) (.ok a')

theorem Twins.attempt_bind {Q : Reading → α → α' → Prop} {R : Reading → β → β' → Prop}
    {x : ExceptT ε Program α} {x' : ExceptT ε Program α'} {f : α → ExceptT ε Program β}
    {f' : α' → ExceptT ε Program β'} (first : Twins (Agree Q) k x.run x'.run)
    (second : ∀ k a a', Q k a a' → Twins (Agree R) k (f a).run (f' a').run) :
    Twins (Agree R) k (x >>= f).run (x' >>= f').run := by
  rw [ExceptT.run_bind, ExceptT.run_bind]
  refine first.bind fun k outcome outcome' agree => ?_
  cases agree with
  | error e => exact .done (.error e)
  | ok holds => exact second k _ _ holds

theorem twins_throw {Q : Reading → α → α' → Prop} (e : ε) :
    Twins (Agree Q) k (throw e : ExceptT ε Program α).run (throw e : ExceptT ε Program α').run :=
  .done (.error e)

theorem twins_pure {Q : Reading → α → α' → Prop} {a : α} {a' : α'} (holds : Q k a a') :
    Twins (Agree Q) k (pure a : ExceptT ε Program α).run (pure a' : ExceptT ε Program α').run :=
  .done (.ok holds)

/-- The same outcome in both. -/
theorem agree_self {Q : Reading → α → α → Prop} {x : Except ε α} (holds : ∀ a, Q k a a) :
    Agree Q k x x := by
  cases x with
  | error e => exact .error e
  | ok a => exact .ok (holds a)

theorem twins_liftExcept {Q : Reading → α → α' → Prop} {x : Except ε α} {x' : Except ε α'}
    (agree : Agree Q k x x') :
    Twins (Agree Q) k (liftExcept x : ExceptT ε Program α).run
      (liftExcept x' : ExceptT ε Program α').run := by
  cases agree with
  | error e => exact .done (.error e)
  | ok holds => exact .done (.ok holds)

theorem Twins.lift {Q : Reading → α → α' → Prop} {p : Program α} {p' : Program α'}
    (twins : Twins Q k p p') :
    Twins (Agree Q) k (liftM p : ExceptT ε Program α).run
      (liftM p' : ExceptT ε Program α').run :=
  twins.bind fun _ _ _ holds => .done (.ok holds)

/-! ### Loops -/

/-- Two loops over lists that agree in what matters to their steps. -/
theorem twins_forM {γ : Type} {key : α → γ} {key' : α' → γ} {f : α → ExceptT ε Program Unit}
    {f' : α' → ExceptT ε Program Unit} {as : List α} {as' : List α'}
    (same : as.map key = as'.map key')
    (step : ∀ a a', key a = key' a' → Twins (Agree fun k' _ _ => k = k') k (f a).run (f' a').run) :
    Twins (Agree fun k' _ _ => k = k') k (as.forM f).run (as'.forM f').run := by
  induction as generalizing as' with
  | nil =>
    obtain rfl := List.map_eq_nil_iff.mp same.symm
    exact twins_pure rfl
  | cons a as ih =>
    obtain ⟨a', as', rfl, first, rest⟩ := List.map_eq_cons_iff.mp same.symm
    refine (step a a' first.symm).attempt_bind fun _ _ _ kept => ?_
    subst kept
    exact ih rest.symm

theorem twins_foldlM {γ : Type} {key : α → γ} {key' : α' → γ} {Q : Reading → β → β' → Prop}
    {f : β → α → ExceptT ε Program β} {f' : β' → α' → ExceptT ε Program β'} {as : List α}
    {as' : List α'} (same : as.map key = as'.map key')
    (step : ∀ k b b' a a', key a = key' a' → Q k b b' →
      Twins (Agree Q) k (f b a).run (f' b' a').run)
    {b : β} {b' : β'} (holds : Q k b b') :
    Twins (Agree Q) k (as.foldlM f b).run (as'.foldlM f' b').run := by
  induction as generalizing as' k b b' with
  | nil =>
    obtain rfl := List.map_eq_nil_iff.mp same.symm
    exact twins_pure holds
  | cons a as ih =>
    obtain ⟨a', as', rfl, first, rest⟩ := List.map_eq_cons_iff.mp same.symm
    exact (step k b b' a a' first.symm holds).attempt_bind fun _ _ _ holds => ih rest.symm holds

/-! ### Requests -/

theorem twins_request {r r' : Request} {Q : Reading → r.Answer → r'.Answer → Prop}
    (same : r.masked = r'.masked)
    (told : ∀ answer answer', Told k ⟨r, answer⟩ ⟨r', answer'⟩ →
      Q (k.after ⟨r, answer⟩) answer answer') : Twins Q k (request r) (request r') :=
  .ask same fun answer answer' alike => .done (told answer answer' alike)

/-- A question that both ask in the same words. -/
theorem twins_ask {r : Request} (kept : ∀ answer, k = k.after ⟨r, answer⟩)
    (silent : ∀ answer, Exchange.delivery? ⟨r, answer⟩ = none) :
    Twins (fun k' answer answer' => k = k' ∧ answer = answer') k (request r) (request r) :=
  twins_request rfl fun answer _ told => ⟨kept answer, eq_of_heq (told.same (silent answer))⟩

/-- Something that both tell, in words that agree once they are masked. -/
theorem twins_tell {r r' : Request} (same : r.masked = r'.masked)
    (kept : ∀ answer, k = k.after ⟨r, answer⟩) :
    Twins (fun k' _ _ => k = k') k (request r) (request r') :=
  twins_request same fun answer _ _ => kept answer

theorem twins_record {event event' : Metrics.Notice} (same : event = event') :
    Twins (fun k' _ _ => k = k') k (request (.record event)) (request (.record event')) :=
  twins_tell (congrArg Request.record same) fun _ => rfl

theorem twins_log {entry entry' : Log.Entry} (same : entry.masked = entry'.masked) :
    Twins (fun k' _ _ => k = k') k (request (.log entry)) (request (.log entry')) :=
  twins_tell (congrArg Request.log same) fun _ => rfl

/-- Two calls that agree once they are masked, in either manner. -/
theorem twins_perform {call call' : StoreCall} {Q : Reading → call.Result → call'.Result → Prop}
    (manner : Manner) (origin : Origin) (same : call.masked = call'.masked)
    (told : ∀ result result', Told k ⟨.store call, result⟩ ⟨.store call', result'⟩ →
      Agree Q (k.heard call result) result result') :
    Twins (Agree Q) k (manner.perform origin call).run (manner.perform origin call').run := by
  cases manner with
  | blocking =>
    have masked : (Request.store call).masked = (Request.store call').masked :=
      congrArg Request.store same
    exact twins_request masked told
  | suspending =>
    have looked : Twins _ k (request .cancelled) (request .cancelled) :=
      twins_ask (fun _ => rfl) fun _ => rfl
    refine looked.bind fun _ gaveUp _ ⟨kept, both⟩ => ?_
    subst kept both
    cases gaveUp with
    | true => exact twins_throw _
    | false =>
      refine .ask (congrArg Request.await same) fun answer answer' alike => ?_
      rcases alike.awaited same with ⟨rfl, rfl⟩ | ⟨result, result', rfl, rfl, heard⟩
      · exact twins_throw _
      · exact .done (told result result' heard)

/-- A call that delivers no value is told the same in both. -/
theorem twins_call (manner : Manner) (origin : Origin) (call : StoreCall)
    (silent : ∀ result, Exchange.delivery? ⟨.store call, result⟩ = none) :
    Twins (Agree fun k' a a' => k.heard call (.ok a) = k' ∧ a = a') k
      (manner.perform origin call).run (manner.perform origin call).run :=
  twins_perform manner origin rfl fun result result' told => by
    obtain rfl := eq_of_heq (told.same (silent result))
    cases result with
    | error e => exact .error e
    | ok a => exact .ok ⟨rfl, rfl⟩

/-- A value may differ if it is a generated one. -/
theorem twins_value (manner : Manner) (ordinal : Nat) :
    Twins (Agree fun k' v v' => k = k' ∧ (k.Generates ∨ v = v')) k
      (manner.perform .reader (.reader (.value ordinal))).run
      (manner.perform .reader (.reader (.value ordinal))).run :=
  twins_perform manner .reader rfl fun result result' told => by
    rcases told with same | ⟨generates, delivers, delivers'⟩
    · obtain rfl := eq_of_heq same
      exact agree_self fun _ => ⟨rfl, .inr rfl⟩
    · cases result with
      | error e => cases delivers
      | ok v =>
        cases result' with
        | error e => cases delivers'
        | ok v' => exact .ok ⟨rfl, .inl generates⟩

/-- From the statement on, the results of the commands that were written are read. -/
theorem twins_query (manner : Manner) {command command' : StoreCommand}
    (same : command.masked = command'.masked) :
    Twins (Agree fun k' _ _ => ⟨[], k.written⟩ = k') k
      (manner.perform .store (.query command)).run
      (manner.perform .store (.query command')).run :=
  twins_perform manner .store (congrArg StoreCall.query same) fun result result' told => by
    obtain rfl : result = result' := eq_of_heq (told.same rfl)
    cases result with
    | error e => exact .error e
    | ok a => exact .ok rfl

end Program

end BatchedSave
