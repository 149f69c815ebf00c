import RustyCrew.Coordination.Engine

namespace RustyCrew.Proof.Coordination

open Library Protocol RustyCrew.Coordination CoordinationM Attended
open RustyCrew.Engine (SessionRegistry Surroundings)

/-! ## Rules for the calls of the engine -/

section
variable {α : Type} {P E : CoordinationEngine → Prop} {Q : α → CoordinationEngine → Prop}

theorem upholds_now : Upholds P now (fun _ => P) E :=
  upholds_bind (upholds_ask fun _ _ => id) fun _ => upholds_pure fun _ => id

theorem upholds_call (fails : ∀ e, P e → E e) : Upholds P call (fun _ => P) E := by
  apply upholds_bind (upholds_ask fun _ _ => id)
  intro answer
  cases answer.fault with
  | some failure => exact upholds_lift (fun _ _ impossible => by cases impossible) fails
  | none => exact upholds_pure fun _ => id

theorem upholds_inStore {statement : ExternalTables → CoreResult (α × ExternalTables)}
    (post : ∀ e a tables, statement e.tables = .ok (a, tables) → P e → Q a { e with tables })
    (fails : ∀ e, P e → E e) : Upholds P (inStore statement) Q E :=
  upholds_bind (upholds_call fails) fun _ => upholds_within post fails

theorem upholds_load {query : ExternalTables → α} (post : ∀ e, P e → Q (query e.tables) e)
    (fails : ∀ e, P e → E e) : Upholds P (load query) Q E := by
  refine upholds_inStore (fun e a tables stated pre => ?_) fails
  cases stated
  exact post e pre

theorem upholds_inReviews {statement : ReviewTables → CoreResult (α × ReviewTables)}
    (post : ∀ e a reviews, statement e.reviews = .ok (a, reviews) → P e → Q a { e with reviews })
    (fails : ∀ e, P e → E e) : Upholds P (inReviews statement) Q E :=
  upholds_bind (upholds_call fails) fun _ => upholds_within post fails

theorem upholds_loadReviews {query : ReviewTables → CoreResult α}
    (post : ∀ e a, query e.reviews = .ok a → P e → Q a e) (fails : ∀ e, P e → E e) :
    Upholds P (loadReviews query) Q E := by
  refine upholds_inReviews (fun e a reviews stated pre => ?_) fails
  simp only [bind_eq_ok, pure_eq_ok, Prod.mk.injEq] at stated
  obtain ⟨answer, stated, rfl, rfl⟩ := stated
  exact post e answer stated pre

theorem upholds_saveReviews {write : ReviewTables → CoreResult ReviewTables}
    {Q : Unit → CoordinationEngine → Prop}
    (post : ∀ e reviews, write e.reviews = .ok reviews → P e → Q () { e with reviews })
    (fails : ∀ e, P e → E e) : Upholds P (saveReviews write) Q E := by
  refine upholds_inReviews (fun e a reviews stated pre => ?_) fails
  simp only [bind_eq_ok, pure_eq_ok, Prod.mk.injEq, true_and] at stated
  obtain ⟨written, stated, rfl⟩ := stated
  exact post e written stated pre

theorem upholds_inRegistry {f : SessionRegistry → CoreResult (α × SessionRegistry)}
    (post : ∀ e a registry, f e.registry = .ok (a, registry) → P e → Q a { e with registry })
    (fails : ∀ e, P e → E e) : Upholds P (inRegistry f) Q E :=
  upholds_within post fails

theorem upholds_lookUp {query : SessionRegistry → CoreResult α}
    (post : ∀ e a, query e.registry = .ok a → P e → Q a e) (fails : ∀ e, P e → E e) :
    Upholds P (lookUp query) Q E := by
  refine upholds_inRegistry (fun e a registry ran pre => ?_) fails
  simp only [bind_eq_ok, pure_eq_ok, Prod.mk.injEq] at ran
  obtain ⟨answer, stated, rfl, rfl⟩ := ran
  exact post e answer stated pre

theorem upholds_publish {Q : Nat → CoordinationEngine → Prop}
    (post : ∀ sequence e, P e → Q sequence { e with published := e.published ++ [event] })
    (fails : ∀ e, P e → E e) : Upholds P (publish event) Q E := by
  apply upholds_bind (upholds_call fails)
  intro outside
  refine upholds_transact (fun e a e' ran pre => ?_) fails
  cases ran
  exact post _ e pre

theorem upholds_require (post : ∀ a e, value = some a → P e → Q a e)
    (fails : ∀ e, P e → E e) : Upholds P (require value kind message) Q E := by
  refine upholds_lift (fun a e known pre => ?_) fails
  rw [orFail_eq_ok] at known
  exact post a e known pre

end

/-! ## Computations that only read -/

section
variable {α : Type} {P : CoordinationEngine → Prop}

@[simp] theorem preserves_now : Preserves P now := upholds_now

@[simp] theorem preserves_call : Preserves P call := upholds_call fun _ => id

@[simp] theorem preserves_reject : Preserves P (reject kind message : CoordinationM α) :=
  preserves_lift

@[simp] theorem preserves_require {value : Option α} : Preserves P (require value kind message) :=
  preserves_lift

@[simp] theorem preserves_refuse {refused : Prop} [Decidable refused] :
    Preserves P (refuse refused kind message) :=
  preserves_lift

@[simp] theorem preserves_load {query : ExternalTables → α} : Preserves P (load query) :=
  upholds_load (fun _ => id) fun _ => id

@[simp] theorem preserves_loadReviews {query : ReviewTables → CoreResult α} :
    Preserves P (loadReviews query) :=
  upholds_loadReviews (fun _ _ _ => id) fun _ => id

@[simp] theorem preserves_lookUp {query : SessionRegistry → CoreResult α} :
    Preserves P (lookUp query) :=
  upholds_lookUp (fun _ _ _ => id) fun _ => id

@[simp] theorem preserves_getSession : Preserves P (getSession sessionId) :=
  preserves_lookUp

@[simp] theorem preserves_findSession : Preserves P (findSession sessionId) :=
  preserves_lookUp

@[simp] theorem preserves_consult {query : CoordinationEngine → α} :
    Preserves P (consult query) := by
  apply upholds_bind preserves_call
  intro _
  refine upholds_transact (fun e a e' ran pre => ?_) fun _ => id
  cases ran
  exact pre

@[simp] theorem preserves_checkSubmitterSession : Preserves P (checkSubmitterSession record) := by
  unfold checkSubmitterSession
  split <;> simp

@[simp] theorem preserves_reviewerCaller : Preserves P (reviewerCaller record) := by
  unfold reviewerCaller
  repeat refine preserves_bind (by simp) fun _ => ?_
  simp

@[simp] theorem preserves_resolveReviewSubmissionCaller :
    Preserves P (resolveReviewSubmissionCaller submissionId) := by
  refine preserves_bind preserves_loadReviews fun found => ?_
  refine preserves_bind preserves_require fun record => ?_
  split <;> simp

@[simp] theorem preserves_externalCaller :
    Preserves P
      (externalCaller runtimeId bindingId holder generation nativeThreadId nativeTurnId) := by
  unfold externalCaller
  repeat refine preserves_bind (by simp) fun _ => ?_
  simp

@[simp] theorem preserves_resolveCoordinationCaller :
    Preserves P (resolveCoordinationCaller caller) := by
  cases caller <;> simp [resolveCoordinationCaller]

end

end RustyCrew.Proof.Coordination
