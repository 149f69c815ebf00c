import RustyCrew.Library.Interleaving

namespace RustyCrew.Library

open List

/-! ## Programs that keep a discipline

A ghost follows each program of a pool: it says which operations the program may perform next, and
changes with what they answer. -/

structure Discipline {σ ε η : Type} (I : Interface σ ε η) (κ : Type) where
  allows : κ → I.Op → Prop
  /-- What an operation can answer. -/
  answers : (o : I.Op) → Except ε (I.Answer o) → Prop
  after : κ → (o : I.Op) → Except ε (I.Answer o) → κ

section
variable {σ ε η κ α β : Type} {I : Interface σ ε η} (D : Discipline I κ)

namespace Program

/-- With the ghost `k`, the program performs only what it may. It returns with `Q` or fails with
`E`. -/
def Obeys (Q : α → κ → Prop) (E : κ → Prop) : κ → Program I α → Prop
  | k, .done (.ok a) => Q a k
  | k, .done (.error _) => E k
  | k, .op o next =>
    D.allows k o ∧ ∀ answer, D.answers o answer → Obeys Q E (D.after k o answer) (next answer)

variable {D} {k : κ}
variable {p : Program I α}

theorem obeys_request {Q : I.Answer o → κ → Prop} (allowed : D.allows k o)
    (returns : ∀ a, D.answers o (.ok a) → Q a (D.after k o (.ok a)))
    (fails : ∀ failure, E (D.after k o (.error failure))) : Obeys D Q E k (request o) := by
  refine ⟨allowed, fun answer answers => ?_⟩
  cases answer with
  | ok a => exact returns a answers
  | error failure => exact fails failure

theorem obeys_bind {f : α → Program I β} {R : β → κ → Prop} (first : Obeys D Q E k p)
    (second : ∀ a k, Q a k → Obeys D R E k (f a)) : Obeys D R E k (p >>= f) := by
  induction p generalizing k with
  | done result =>
    cases result with
    | ok a => exact second a k first
    | error failure => exact first
  | op o next ih => exact ⟨first.1, fun answer answers => ih answer (first.2 answer answers)⟩

theorem obeys_weaken {Q' : α → κ → Prop} {E' : κ → Prop} (strong : Obeys D Q' E' k p)
    (returns : ∀ a k, Q' a k → Q a k) (fails : ∀ k, E' k → E k) : Obeys D Q E k p := by
  induction p generalizing k with
  | done result =>
    cases result with
    | ok a => exact returns a k strong
    | error failure => exact fails k strong
  | op o next ih => exact ⟨strong.1, fun answer answers => ih answer (strong.2 answer answers)⟩

theorem obeys_attempt (tried : Obeys D (fun _ => P) P k p) :
    Obeys D (fun _ => P) E k p.attempt := by
  induction p generalizing k with
  | done result => cases result <;> exact tried
  | op o next ih => exact ⟨tried.1, fun answer answers => ih answer (tried.2 answer answers)⟩

theorem obeys_closing {R : κ → Prop} (body : Obeys D (fun _ => P) P k p)
    (allowed : ∀ k, P k → D.allows k last) (closed : ∀ k answer, P k → R (D.after k last answer)) :
    Obeys D (fun _ => R) R k (p.closing last) := by
  induction p generalizing k with
  | done result =>
    have reached : P k := by cases result <;> exact body
    refine ⟨allowed k reached, fun answer _ => ?_⟩
    cases result <;> exact closed k answer reached
  | op o next ih => exact ⟨body.1, fun answer answers => ih answer (body.2 answer answers)⟩

theorem obeys_foldlM {f : β → α → Program I β} {P : List α → κ → Prop}
    (round : ∀ b a rest k, P (a :: rest) k → Obeys D (fun _ => P rest) E k (f b a))
    (start : P items k) : Obeys D (fun _ => P []) E k (items.foldlM f b) := by
  induction items generalizing b k with
  | nil => exact start
  | cons a rest ih =>
    rw [foldlM_cons]
    exact obeys_bind (round b a rest k start) fun _ _ left => ih left

end Program

/-! ## Pools under a discipline -/

variable {ι : Type}

structure Pool.Watched (pool : Pool I α) (ghosts : List κ) : Prop where
  length : ghosts.length = pool.running.length
  obeys : ∀ (i : Nat) k p, ghosts[i]? = some k → pool.running[i]? = some p →
    Program.Obeys D (fun _ _ => True) (fun _ => True) k p

def Pool.watch (initial : ι → κ) (pool : Pool I α) (ghosts : List κ) : PoolEvent ι η → List κ
  | .start call => ghosts ++ [initial call]
  | .advance thread outside =>
    match pool.running[thread]?, ghosts[thread]? with
    | some (.op o _), some k =>
      if I.ready o pool.shared then
        ghosts.set thread (D.after k o (I.perform outside o pool.shared).1)
      else ghosts
    | _, _ => ghosts
  | .restart => []

variable {D}

theorem Pool.Watched.allows {pool : Pool I α} (watched : pool.Watched D ghosts)
    (performed : pool.performed (.advance thread outside : PoolEvent ι η) = some (answering, o)) :
    ∃ k, ghosts[thread]? = some k ∧ D.allows k o := by
  simp only [Pool.performed] at performed
  split at performed
  · next next running =>
    have inRange : thread < ghosts.length := by
      rw [watched.length]
      exact (List.getElem?_eq_some_iff.mp running).1
    have ghost : ghosts[thread]? = some ghosts[thread] := getElem?_eq_getElem inRange
    split at performed
    · cases performed
      exact ⟨_, ghost, (watched.obeys thread _ _ ghost running).1⟩
    · cases performed
  · cases performed

theorem Pool.watched_step {program : ι → Program I α} {initial : ι → κ} {reboot : σ → σ}
    (Inv : σ → List κ → Prop) (Ok : Pool I α → PoolEvent ι η → Prop)
    (programs : ∀ call, Program.Obeys D (fun _ _ => True) (fun _ => True) (initial call) (program
      call)) (answered : ∀ outside o s, D.answers o (I.perform outside o s).1)
    (started : ∀ s ghosts call, Inv s ghosts → Inv s (ghosts ++ [initial call]))
    (restarted : ∀ s ghosts, Inv s ghosts → Inv (reboot s) [])
    (performs : ∀ (pool : Pool I α) ghosts thread outside o k, Inv pool.shared ghosts → Ok pool
      (.advance thread outside) → pool.performed (.advance thread outside : PoolEvent ι η) = some
      (outside, o) → ghosts[thread]? = some k → D.allows k o → I.ready o pool.shared = true → Inv
      (I.perform outside o pool.shared).2 (ghosts.set thread (D.after k o (I.perform outside o
      pool.shared).1))) {pool : Pool I α} (watched : pool.Watched D ghosts)
    (inv : Inv pool.shared ghosts) (ok : Ok pool event) :
    (pool.step program reboot event).Watched D (pool.watch D initial ghosts event) ∧
      Inv (pool.step program reboot event).shared (pool.watch D initial ghosts event) := by
  cases event with
  | start call =>
    refine ⟨⟨by simp [step, watch, watched.length], fun i k p => ?_⟩, started _ _ call inv⟩
    simp only [step, watch]
    by_cases old : i < ghosts.length
    · rw [getElem?_append_left old, getElem?_append_left (watched.length ▸ old)]
      exact watched.obeys i k p
    · rw [getElem?_append_right (Nat.le_of_not_lt old),
        getElem?_append_right (watched.length ▸ Nat.le_of_not_lt old), watched.length]
      intro ghost new
      obtain ⟨rfl⟩ := mem_singleton.mp (mem_of_getElem? ghost)
      obtain ⟨rfl⟩ := mem_singleton.mp (mem_of_getElem? new)
      exact programs call
  | restart => exact ⟨⟨rfl, by simp [watch]⟩, restarted _ _ inv⟩
  | advance thread outside =>
    cases next : pool.running[thread]? with
    | none =>
      simp only [step, watch, next]
      exact ⟨watched, inv⟩
    | some p =>
    cases p with
    | done result =>
      simp only [step, watch, next]
      exact ⟨watched, inv⟩
    | op o rest =>
    have inRange : thread < ghosts.length := by
      rw [watched.length]
      exact (List.getElem?_eq_some_iff.mp next).1
    have ghost : ghosts[thread]? = some ghosts[thread] := getElem?_eq_getElem inRange
    cases isReady : I.ready o pool.shared with
    | false =>
      simp only [step, watch, next, ghost, isReady]
      exact ⟨watched, inv⟩
    | true =>
      obtain ⟨allowed, goesOn⟩ := watched.obeys thread _ _ ghost next
      have performed : pool.performed (.advance thread outside : PoolEvent ι η) =
          some (outside, o) := by
        simp [Pool.performed, next, isReady]
      simp only [step, watch, next, ghost, isReady, if_true]
      refine ⟨⟨by simp [watched.length], fun i k p => ?_⟩,
        performs pool ghosts thread outside o _ inv ok performed ghost allowed isReady⟩
      by_cases here : thread = i
      · subst here
        intro after running
        rw [getElem?_set_self inRange, Option.some.injEq] at after
        rw [getElem?_set_self (watched.length ▸ inRange), Option.some.injEq] at running
        subst after running
        exact goesOn _ (answered outside o pool.shared)
      · rw [getElem?_set_ne here, getElem?_set_ne here]
        exact watched.obeys i k p

end

end RustyCrew.Library
