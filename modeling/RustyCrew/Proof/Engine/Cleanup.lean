import RustyCrew.Proof.Engine.Archival

namespace RustyCrew.Proof.Engine

open Library Protocol RustyCrew.Persistence RustyCrew.Engine CrewM Table List

variable {one : Option SessionId} {session : SessionState}

/-! ## What the passes look for -/

section
variable (calendar : Calendar) (cleanedAt : IsoTimestamp) (e : CrewEngine)

variable (session : SessionState)

def parentOf : Option SessionState :=
  session.delegation.bind fun lineage => sessionOf e lineage.parentSessionId

def Bereft : Prop :=
  ∀ parent, parentOf e session = some parent → parent.status = .archived

def Finished : Prop :=
  isLiveDelegated session = true ∧ isEnded (runOf e session.sessionId) = true

def Lingering : Prop :=
  isLiveDelegated session = true ∧ isEnded (runOf e session.sessionId) = false

def Precedes (first second : SessionId) : Prop :=
  let listing := e.registry.allSessions.map SessionState.sessionId
  listing.idxOf first < listing.idxOf second

/-- What the second pass archives: the first pass may have taken the parent, and so may an earlier
turn of the second pass itself. -/
inductive Orphaned : SessionState → Prop
  | lost {session : SessionState} : Lingering e session →
      (∀ parent, parentOf e session = some parent → parent.status = .archived ∨ Finished e parent) →
      Orphaned session
  | behind {session parent : SessionState} : Lingering e session →
      parentOf e session = some parent → Orphaned parent →
      Precedes e parent.sessionId session.sessionId → Orphaned session

def Elapsed : Prop :=
  ∃ now createdAt maxDurationMs, parseRfc3339 calendar cleanedAt = .ok now ∧
    parseRfc3339 calendar session.createdAt = .ok createdAt ∧
    session.resourceLimits.maxDurationMs = some maxDurationMs ∧
    maxDurationMs * 10 ^ 6 ≤ now.instant - createdAt.instant

def Cleared : Prop :=
  Finished e session ∨ Orphaned e session ∨
    (Lingering e session ∧ Elapsed calendar cleanedAt session)

end

/-! ## The listing of the registry -/

section
variable {id : SessionId}

theorem mem_allSessions : session ∈ e.registry.allSessions ↔
    sessionOf e session.sessionId = some session := by
  rw [SessionRegistry.allSessions, mem_insertionSort]
  constructor
  · exact find?_of_mem
  · exact mem_of_find?

theorem nodup_allSessions (e : CrewEngine) :
    (e.registry.allSessions.map SessionState.sessionId).Nodup := by
  have sorted := (perm_insertionSort (fun a b : SessionState => a.handle ≤ b.handle)
    e.registry.sessions.rows).map SessionState.sessionId
  exact sorted.nodup_iff.mpr e.registry.sessions.unique

theorem sessionOf_self (found : sessionOf e id = some session) :
    sessionOf e session.sessionId = some session := by
  rw [show session.sessionId = id from key_of_find? found]
  exact found

theorem exists_allSessions {Test : SessionState → Prop} :
    (∃ session ∈ e.registry.allSessions, session.sessionId = id ∧ Test session) ↔
      ∃ session, sessionOf e id = some session ∧ Test session := by
  simp only [mem_allSessions]
  constructor
  · rintro ⟨session, found, rfl, passes⟩
    exact ⟨session, found, passes⟩
  · rintro ⟨session, found, passes⟩
    exact ⟨session, sessionOf_self found, key_of_find? found, passes⟩

theorem Archives.session_cases {Gone : SessionId → Prop} (archives : Archives e e' Gone)
    (live : isLiveDelegated session = true) :
    sessionOf e' id = some session ↔ sessionOf e id = some session ∧ ¬Gone id := by
  by_cases gone : Gone id
  · obtain ⟨⟨earlier, time, found, archived⟩, -⟩ := archives.gone id gone
    simp only [archived, gone, not_true_eq_false, and_false, iff_false, Option.some.injEq]
    intro same
    subst same
    simp [isLiveDelegated, archivedAt] at live
  · simp only [(archives.others id gone).1, gone, not_false_eq_true, and_true]

end

/-! ## The passes -/

section

theorem archives_archiveEnded {run : WorkerRunRecord} {id : SessionId}
    (isRun : runOf e id = some run) (terminal : run.status.isTerminal = true)
    (returned : Returns (archiveEnded id run) e one e') :
    Archives e e' fun other => other = id := by
  obtain ⟨state, _, ⟨session, time, found, rfl, rfl⟩, later₁⟩ :=
    returns_then returns_archiveInRegistry returned
  obtain ⟨_, _, rfl, later₂⟩ := returns_then returns_save later₁
  obtain ⟨_, _, rfl, later₃⟩ := returns_then returns_publish later₂
  obtain ⟨_, _, ⟨events, rfl⟩, later₄⟩ := returns_then returns_publishDelegationLifecycle later₃
  obtain ⟨-, rfl⟩ := returns_pure later₄
  apply archives_one found rfl
  · exact fun _ _ => rfl
  · intro other isOther
    cases isRun.symm.trans isOther
    exact terminal

theorem archives_terminalOne {one : Option SessionId}
    (returned : Returns (archiveTerminalDelegatedSession session) e one e') :
    Archives e e' fun id => id = session.sessionId ∧ Finished e session := by
  unfold archiveTerminalDelegatedSession at returned
  split at returned
  · next live =>
    obtain ⟨run, middle, loaded, later⟩ := returns_bind returned
    obtain ⟨known, rfl⟩ := returns_load loaded
    have isRun : runOf middle session.sessionId = run := known.symm
    cases run with
    | none => exact archives_pure later fun id => by simp [Finished, isRun, isEnded]
    | some run =>
      by_cases terminal : run.status.isTerminal = true
      · simp only [terminal, if_true] at later
        refine (archives_archiveEnded isRun terminal later).congr fun id => ?_
        simp [Finished, live, isRun, isEnded, terminal]
      · simp only [terminal, if_false, Bool.false_eq_true] at later
        exact archives_pure later fun id => by simp [Finished, isRun, isEnded, terminal]
  · next other => exact archives_pure returned fun id => by simp [Finished, other]

theorem archives_terminal (returned : Returns archiveTerminalDelegatedSessions e found e') :
    Archives e e' fun id => ∃ session, sessionOf e id = some session ∧ Finished e session := by
  obtain ⟨sessions, middle, looked, later⟩ := returns_bind returned
  obtain ⟨listed, rfl⟩ := returns_lookUp looked
  cases listed
  have archives : Archives middle e' fun id => ∃ session ∈ middle.registry.allSessions,
      session.sessionId = id ∧ Finished middle session :=
    archives_visits (nodup_allSessions _)
      (fun _ _ _ round => archives_terminalOne round.choose_spec)
      (fun _ _ _ same => by simp only [Finished, same]) (returns_gather later)
  exact archives.congr fun id => exists_allSessions

theorem archives_listed {status : WorkerRunStatus} (live : isLiveDelegated session = true)
    (terminal : status.isTerminal = true)
    (returned : Returns (archiveListed session status) e one e') :
    Archives e e' fun id => id = session.sessionId ∧ Lingering e session := by
  obtain ⟨archived, middle, archives, ending⟩ := returns_bind returned
  obtain ⟨-, rfl⟩ := returns_pure ending
  refine (archives_ifNonterminal terminal archives).congr fun id => ?_
  have delegated : session.kind = .delegated := by
    simp only [isLiveDelegated, Bool.and_eq_true, decide_eq_true_eq] at live
    exact live.1
  simp [delegated, Lingering, live]

theorem archives_orphanedOne
    (returned : Returns (cleanupOrphanedDelegatedSession session) e one e') :
    Archives e e' fun id => id = session.sessionId ∧ Lingering e session ∧ Bereft e session := by
  unfold cleanupOrphanedDelegatedSession at returned
  split at returned
  · next live =>
    have archived : Bereft e session → ∀ status, status.isTerminal = true →
        Returns (archiveListed session status) e one e' →
        Archives e e' fun id => id = session.sessionId ∧
          Lingering e session ∧ Bereft e session := by
      intro bereft status terminal archives
      refine (archives_listed live terminal archives).congr fun id => ?_
      simp [bereft]
    split at returned
    · next noLineage =>
      refine archived (fun parent isParent => ?_) .expired rfl returned
      simp [parentOf, noLineage] at isParent
    · next lineage isLineage =>
      obtain ⟨parent, middle, looked, later⟩ := returns_bind returned
      obtain ⟨known, rfl⟩ := returns_lookUp looked
      cases known
      have isParent : parentOf middle session =
          middle.registry.sessions.find? lineage.parentSessionId := by
        rw [parentOf, isLineage]
        rfl
      split at later
      · next parent present =>
        have only : Bereft middle session ↔ parent.status = .archived := by
          simp [Bereft, isParent, present]
        split at later
        · next running => exact archives_pure later fun id => by simp [only, running]
        · next gone => exact archived (only.mpr (not_not.mp gone)) .cancelled rfl later
      · next absent =>
        refine archived (fun parent present => ?_) .expired rfl later
        rw [isParent, absent] at present
        cases present
  · next other => exact archives_pure returned fun id => by simp [Lingering, other]

end

/-! ## The second pass -/

theorem Archives.bereft_iff {Gone : SessionId → Prop}
    (archives : Archives e e' Gone) : Bereft e' session ↔
      ∀ parent, parentOf e session = some parent →
        parent.status = .archived ∨ Gone parent.sessionId := by
  unfold Bereft parentOf
  cases session.delegation with
  | none => simp
  | some lineage =>
    simp only [Option.bind_some]
    by_cases gone : Gone lineage.parentSessionId
    · obtain ⟨⟨parent, time, found, archived⟩, -⟩ := archives.gone _ gone
      have isId : parent.sessionId = lineage.parentSessionId := key_of_find? found
      simp [found, archived, archivedAt, isId, gone]
    · rw [(archives.others _ gone).1]
      refine forall_congr' fun parent => imp_congr_right fun found => ?_
      have isId : parent.sessionId = lineage.parentSessionId := key_of_find? found
      simp [isId, gone]

section
variable {e : CrewEngine} {item : SessionState} {front : List SessionId}

theorem precedes_iff (listing : e.registry.allSessions.map SessionState.sessionId =
    front ++ item.sessionId :: back) {id : SessionId} :
    Precedes e id item.sessionId ↔ id ∈ front := by
  have distinct := nodup_allSessions e
  rw [listing, nodup_middle, nodup_cons, mem_append, not_or] at distinct
  rw [Precedes, listing, idxOf_append_of_notMem distinct.1.1, idxOf_cons_self,
    Nat.add_zero]
  constructor
  · intro before
    by_contra absent
    rw [idxOf_append_of_notMem absent] at before
    omega
  · intro isFront
    rw [idxOf_append_of_mem isFront]
    exact idxOf_lt_length_iff.mpr isFront

theorem orphaned_iff (lingering : Lingering e item)
    (listing : e.registry.allSessions.map SessionState.sessionId =
      front ++ item.sessionId :: back) :
    Orphaned e item ↔ ∀ parent, parentOf e item = some parent →
      parent.status = .archived ∨ Finished e parent ∨
        (Orphaned e parent ∧ parent.sessionId ∈ front) := by
  constructor
  · intro orphaned parent isParent
    cases orphaned with
    | lost _ lost => exact (lost parent isParent).imp_right .inl
    | behind _ isOther orphaned precedes =>
      cases isOther.symm.trans isParent
      exact .inr (.inr ⟨orphaned, (precedes_iff listing).mp precedes⟩)
  · intro cases
    by_cases lost : ∀ parent, parentOf e item = some parent →
        parent.status = .archived ∨ Finished e parent
    · exact .lost lingering lost
    · push Not at lost
      obtain ⟨parent, isParent, notArchived, notFinished⟩ := lost
      obtain ⟨orphaned, isFront⟩ :=
        ((cases parent isParent).resolve_left notArchived).resolve_left notFinished
      exact .behind lingering isParent orphaned ((precedes_iff listing).mpr isFront)

def TakenSoFar (e : CrewEngine) (front : List SessionId) (id : SessionId) : Prop :=
  ∃ session, sessionOf e id = some session ∧
    (Finished e session ∨ (Orphaned e session ∧ id ∈ front))

theorem Orphaned.lingering (orphaned : Orphaned e session) : Lingering e session := by
  cases orphaned with
  | lost lingering _ => exact lingering
  | behind lingering _ _ _ => exact lingering

theorem Lingering.not_finished (lingering : Lingering e session) : ¬Finished e session := by
  intro finished
  cases lingering.2.symm.trans finished.2

section
variable (first : Archives e₀ e fun id => ∃ session, sessionOf e₀ id = some session ∧
    Finished e₀ session)
include first

theorem orphan_turn (soFar : Archives e₀ middle (TakenSoFar e₀ front))
    (isItem : sessionOf e item.sessionId = some item)
    (listing : e₀.registry.allSessions.map SessionState.sessionId =
      front ++ item.sessionId :: back) :
    Lingering middle item ∧ Bereft middle item ↔
      sessionOf e₀ item.sessionId = some item ∧ Orphaned e₀ item := by
  by_cases live : isLiveDelegated item = true
  · obtain ⟨isFirst, notTaken⟩ := (first.session_cases live).mp isItem
    have notFinished : ¬Finished e₀ item := fun finished => notTaken ⟨item, isFirst, finished⟩
    have lingering : Lingering e₀ item := by
      refine ⟨live, ?_⟩
      by_contra ended
      exact notFinished ⟨live, by simpa using ended⟩
    have notFront : item.sessionId ∉ front := by
      have distinct := nodup_allSessions e₀
      rw [listing, nodup_middle, nodup_cons, mem_append, not_or] at distinct
      exact distinct.1.1
    have untouched : ¬TakenSoFar e₀ front item.sessionId := by
      intro ⟨session, found, finished⟩
      cases found.symm.trans isFirst
      exact finished.elim notFinished fun orphaned => notFront orphaned.2
    have sameLingering : Lingering middle item ↔ Lingering e₀ item := by
      rw [Lingering, (soFar.others _ untouched).2, Lingering]
    rw [sameLingering, soFar.bereft_iff, orphaned_iff lingering listing]
    simp only [lingering, isFirst, true_and]
    refine forall_congr' fun parent => imp_congr_right fun isParent => or_congr_right ?_
    have isSession : sessionOf e₀ parent.sessionId = some parent := by
      obtain ⟨lineage, -, found⟩ := Option.bind_eq_some_iff.mp isParent
      exact sessionOf_self found
    simp [TakenSoFar, isSession]
  · simp only [Lingering, live, false_and, Bool.false_eq_true, false_iff, not_and]
    exact fun _ orphaned => live orphaned.lingering.1

theorem archives_orphanTurns (visited : Visits (fun e item e' => ∃ one,
      Returns (cleanupOrphanedDelegatedSession item) e one e') middle items e')
    (snapshot : ∀ item ∈ items, sessionOf e item.sessionId = some item)
    (soFar : Archives e₀ middle (TakenSoFar e₀ front))
    (listing : e₀.registry.allSessions.map SessionState.sessionId =
      front ++ items.map SessionState.sessionId) :
    Archives e₀ e' fun id => ∃ session, sessionOf e₀ id = some session ∧
      (Finished e₀ session ∨ Orphaned e₀ session) := by
  induction visited generalizing front with
  | none =>
    refine soFar.congr fun id => exists_congr fun session => and_congr_right fun found => ?_
    have isListed : id ∈ front := by
      rw [map_nil, append_nil] at listing
      rw [← listing, ← show session.sessionId = id from key_of_find? found]
      exact mem_map_of_mem (mem_allSessions.mpr (sessionOf_self found))
    simp [isListed]
  | @next middle later e' item rest turn _ ih =>
    have isItem := snapshot item (by simp)
    have one := archives_orphanedOne turn.choose_spec
    refine @ih (front ++ [item.sessionId]) (fun other isOther => ?_) ?_ ?_
    · exact snapshot other (by simp [isOther])
    · refine (soFar.trans one).congr fun id => ?_
      rw [orphan_turn first soFar isItem listing]
      constructor
      · rintro (⟨session, found, taken⟩ | ⟨rfl, isFirst, orphaned⟩)
        · refine ⟨session, found, taken.imp_right fun orphaned => ⟨orphaned.1, ?_⟩⟩
          simp [orphaned.2]
        · exact ⟨item, isFirst, .inr ⟨orphaned, by simp⟩⟩
      · rintro ⟨session, found, finished | ⟨orphaned, isListed⟩⟩
        · exact .inl ⟨session, found, .inl finished⟩
        · rcases mem_append.mp isListed with isFront | isLast
          · exact .inl ⟨session, found, .inr ⟨orphaned, isFront⟩⟩
          · obtain rfl := mem_singleton.mp isLast
            -- An orphan has been left by the first pass, so the item is its record.
            have kept : sessionOf e item.sessionId = some session := by
              refine (first.session_cases orphaned.lingering.1).mpr ⟨found, ?_⟩
              rintro ⟨same, isSame, finished⟩
              cases isSame.symm.trans found
              exact orphaned.lingering.not_finished finished
            cases kept.symm.trans isItem
            exact .inr ⟨rfl, found, orphaned⟩
    · simpa using listing

theorem archives_orphaned (returned : Returns cleanupOrphanedDelegatedSessions e found e') :
    Archives e₀ e' fun id => ∃ session, sessionOf e₀ id = some session ∧
      (Finished e₀ session ∨ Orphaned e₀ session) := by
  obtain ⟨sessions, middle, looked, later⟩ := returns_bind returned
  obtain ⟨listed, rfl⟩ := returns_lookUp looked
  cases listed
  have soFar : Archives e₀ middle (TakenSoFar e₀ []) :=
    first.congr fun id => by simp [TakenSoFar]
  exact archives_orphanTurns first (returns_gather later)
    (fun item isItem => mem_allSessions.mp isItem) soFar first.listing.symm

end

end

/-! ## The third pass -/

section
variable {calendar : Calendar} {cleanedAt : IsoTimestamp} {e : CrewEngine} {session : SessionState}

theorem archives_expiredOne {now : OffsetDateTime}
    (parsed : parseRfc3339 calendar cleanedAt = .ok now)
    (returned : Returns (expireDelegatedSession calendar now session) e one e') :
    Archives e e' fun id =>
      id = session.sessionId ∧ Lingering e session ∧ Elapsed calendar cleanedAt session := by
  unfold expireDelegatedSession at returned
  split at returned
  · next live =>
    split at returned
    · next unlimited => exact archives_pure returned fun id => by simp [Elapsed, unlimited]
    · next maxDurationMs limit =>
      obtain ⟨createdAt, _, ⟨created, rfl⟩, later⟩ := returns_then returns_lift returned
      have elapsed : Elapsed calendar cleanedAt session ↔
          ¬(now.instant - createdAt.instant < maxDurationMs * 10 ^ 6) := by
        simp only [Elapsed, parsed, created, limit, Except.ok.injEq, Option.some.injEq]
        constructor
        · rintro ⟨_, _, _, rfl, rfl, rfl, past⟩
          omega
        · intro past
          exact ⟨_, _, _, rfl, rfl, rfl, by omega⟩
      split at later
      · next early => exact archives_pure later fun id gone => elapsed.mp gone.2.2 early
      · next past =>
        refine (archives_listed live rfl later).congr fun id => ?_
        simp only [elapsed, past, not_false_eq_true, and_true]
  · next other => exact archives_pure returned fun id => by simp [Lingering, other]

theorem archives_expired
    (returned : Returns (expireDelegatedSessionsAt calendar cleanedAt) e found e') :
    Archives e e' fun id => ∃ session, sessionOf e id = some session ∧ Lingering e session ∧
      Elapsed calendar cleanedAt session := by
  obtain ⟨now, _, ⟨parsed, rfl⟩, later₁⟩ := returns_then returns_lift returned
  obtain ⟨sessions, e₂, looked, later₂⟩ := returns_bind later₁
  obtain ⟨listed, rfl⟩ := returns_lookUp looked
  cases listed
  have archives : Archives e₂ e' fun id => ∃ session ∈ e₂.registry.allSessions,
      session.sessionId = id ∧ Lingering e₂ session ∧ Elapsed calendar cleanedAt session :=
    archives_visits (nodup_allSessions _)
      (fun _ _ _ round => archives_expiredOne parsed round.choose_spec)
      (fun _ _ _ same => by simp only [Lingering, same]) (returns_gather later₂)
  exact archives.congr fun id => exists_allSessions

/-! ## The cleanup -/

theorem archives_cleanup (returned : Returns (cleanupDelegatedResources calendar) e report e') :
    Archives e e' fun id => ∃ session, sessionOf e id = some session ∧
      Cleared calendar report.cleanedAt e session := by
  obtain ⟨cleanedAt, e₁, clock, later₁⟩ := returns_bind returned
  obtain rfl := returns_now clock
  obtain ⟨terminal, e₂, firstPass, later₂⟩ := returns_bind later₁
  obtain ⟨orphaned, e₃, secondPass, later₃⟩ := returns_bind later₂
  obtain ⟨expired, e₄, thirdPass, later₄⟩ := returns_bind later₃
  obtain ⟨rfl, rfl⟩ := returns_pure later₄
  have two := archives_orphaned (archives_terminal firstPass) secondPass
  have three := archives_expired thirdPass
  refine (two.trans three).congr fun id => ?_
  by_cases taken : ∃ session, sessionOf e₁ id = some session ∧
      (Finished e₁ session ∨ Orphaned e₁ session)
  · simp only [taken, true_or, true_iff]
    obtain ⟨session, found, cases⟩ := taken
    exact ⟨session, found, cases.imp_right .inl⟩
  · simp only [taken, false_or, Lingering, (two.others id taken).1]
    refine exists_congr fun session => and_congr_right fun found => ?_
    have isId : session.sessionId = id := key_of_find? found
    have untaken : ¬(Finished e₁ session ∨ Orphaned e₁ session) := fun cases =>
      taken ⟨session, found, cases⟩
    rw [isId, (two.others id taken).2, Cleared, ← or_assoc, or_iff_right untaken, Lingering, isId]

/-! ## A cleanup with nothing to do -/

def Quiet (calendar : Calendar) (cleanedAt : IsoTimestamp) (e : CrewEngine) : Prop :=
  ∀ session ∈ e.registry.allSessions, isLiveDelegated session = true →
    Lingering e session ∧ ¬Bereft e session ∧ ¬Elapsed calendar cleanedAt session

open Attended

theorem upholds_pass {f : SessionState → CrewM (Option SessionId)}
    (round : ∀ session ∈ e.registry.allSessions,
      Upholds (· = e) (f session) (fun _ => (· = e)) (· = e)) :
    Upholds (· = e) (do
      let sessions ← lookUp fun registry => pure registry.allSessions
      Effect.gather f sessions) (fun _ => (· = e)) (· = e) := by
  refine upholds_bind (Q := fun sessions s => sessions = e.registry.allSessions ∧ s = e)
    (upholds_lookUp ?_ fun _ => id) fun sessions => upholds_assume ?_
  · intro s sessions listed same
    cases listed
    subst same
    exact ⟨rfl, rfl⟩
  · intro listed
    subst listed
    exact upholds_gather round

section
variable (quiet : Quiet calendar cleanedAt e)
include quiet

theorem quiet_terminal :
    Upholds (· = e) archiveTerminalDelegatedSessions (fun _ => (· = e)) (· = e) := by
  refine upholds_pass fun session isSession => ?_
  unfold archiveTerminalDelegatedSession
  split
  · next live =>
    have lingering := (quiet session isSession live).1
    refine upholds_bind (Q := fun run s => run = runOf e session.sessionId ∧ s = e)
      (upholds_load ?_ fun _ => id) fun run => upholds_assume ?_
    · rintro s rfl
      exact ⟨rfl, rfl⟩
    rintro rfl
    cases isRun : runOf e session.sessionId with
    | none => exact preserves_pure
    | some run =>
      have running : run.status.isTerminal = false := by simpa [isRun, isEnded] using lingering.2
      simp only [running, Bool.false_eq_true, if_false]
      exact preserves_pure
  · exact preserves_pure

theorem quiet_orphaned :
    Upholds (· = e) cleanupOrphanedDelegatedSessions (fun _ => (· = e)) (· = e) := by
  refine upholds_pass fun session isSession => ?_
  unfold cleanupOrphanedDelegatedSession
  split
  · next live =>
    have parented := (quiet session isSession live).2.1
    cases isLineage : session.delegation with
    | none => exact absurd (by simp [Bereft, parentOf, isLineage]) parented
    | some lineage =>
      simp only
      refine upholds_bind (Q := fun parent s => parent = parentOf e session ∧ s = e)
        (upholds_lookUp ?_ fun _ => id) fun parent => upholds_assume ?_
      · rintro s parent looked rfl
        cases looked
        rw [parentOf, isLineage]
        exact ⟨rfl, rfl⟩
      rintro rfl
      cases isParent : parentOf e session with
      | none => exact absurd (by simp [Bereft, isParent]) parented
      | some parent =>
        have running : parent.status ≠ .archived := by simpa [Bereft, isParent] using parented
        simp only [running, ne_eq, not_false_eq_true, if_true]
        exact preserves_pure
  · exact preserves_pure

theorem quiet_expired :
    Upholds (· = e) (expireDelegatedSessionsAt calendar cleanedAt) (fun _ => (· = e)) (· = e) := by
  refine upholds_bind (Q := fun now s => parseRfc3339 calendar cleanedAt = .ok now ∧ s = e)
    (upholds_lift (fun now s parsed same => ⟨parsed, same⟩) fun _ => id)
    fun now => upholds_assume fun parsed => ?_
  refine upholds_pass fun session isSession => ?_
  unfold expireDelegatedSession
  split
  · next live =>
    have early := (quiet session isSession live).2.2
    cases limit : session.resourceLimits.maxDurationMs with
    | none => exact preserves_pure
    | some maxDurationMs =>
      simp only
      refine upholds_bind
        (Q := fun createdAt s => parseRfc3339 calendar session.createdAt = .ok createdAt ∧ s = e)
        (upholds_lift (fun createdAt s created same => ⟨created, same⟩) fun _ => id)
        fun createdAt => upholds_assume fun created => ?_
      split
      · exact preserves_pure
      · next past =>
        exact absurd ⟨now, createdAt, maxDurationMs, parsed, created, limit, by omega⟩ early
  · exact preserves_pure

theorem quiet_cleanup {again : Attended CrewEngine Surroundings} (state : again.state = e)
    (clock : (again.answers 0).now = cleanedAt) :
    (cleanupDelegatedResources calendar again).2.state = e := by
  have passes : Upholds (· = e)
      (do
        let terminalArchived ← archiveTerminalDelegatedSessions
        let orphanedArchived ← cleanupOrphanedDelegatedSessions
        let expiredArchived ← expireDelegatedSessionsAt calendar cleanedAt
        pure ⟨cleanedAt, terminalArchived, orphanedArchived, expiredArchived, 0⟩ :
          CrewM DelegatedResourceCleanupReport) (fun _ => (· = e)) (· = e) :=
    upholds_bind (quiet_terminal quiet) fun _ => upholds_bind (quiet_orphaned quiet) fun _ =>
      upholds_bind (quiet_expired quiet) fun _ => preserves_pure
  subst clock
  have start : (again.after again.state).state = e := state
  exact (passes.preserves start).2

end

end

/-- After a cleanup no live delegated session has a missing or archived parent, and another cleanup
at the same time changes nothing, exactly when no session that the passes leave has a parent that
they take. -/
theorem cleanup_settles {calendar : Calendar} {report : DelegatedResourceCleanupReport}
    {attended : Attended CrewEngine Surroundings}
    (returned : (cleanupDelegatedResources calendar attended).1 = .ok report) :
    ((∀ session ∈ (cleanupDelegatedResources calendar attended).2.state.registry.allSessions,
        isLiveDelegated session = true →
          ¬Bereft (cleanupDelegatedResources calendar attended).2.state session) ∧
      ∀ again : Attended CrewEngine Surroundings,
        again.state = (cleanupDelegatedResources calendar attended).2.state →
        (again.answers 0).now = report.cleanedAt →
        (cleanupDelegatedResources calendar again).2.state = again.state) ↔
      ∀ session ∈ attended.state.registry.allSessions, isLiveDelegated session = true →
        ¬Cleared calendar report.cleanedAt attended.state session →
        ∀ parent, parentOf attended.state session = some parent →
          ¬Cleared calendar report.cleanedAt attended.state parent := by
  have archives := archives_cleanup (returns_of_ok returned)
  generalize (cleanupDelegatedResources calendar attended).2.state = e' at archives
  generalize attended.state = e at archives
  have parent_session {session parent : SessionState}
      (isParent : parentOf e session = some parent) :
      sessionOf e parent.sessionId = some parent := by
    obtain ⟨lineage, -, found⟩ := Option.bind_eq_some_iff.mp isParent
    exact sessionOf_self found
  have left {session : SessionState} (live : isLiveDelegated session = true) :
      session ∈ e'.registry.allSessions ↔ session ∈ e.registry.allSessions ∧
        ¬Cleared calendar report.cleanedAt e session := by
    rw [mem_allSessions, mem_allSessions, archives.session_cases live]
    refine and_congr_right fun found => not_congr ?_
    simp [found]
  have lingering {session : SessionState} (live : isLiveDelegated session = true)
      (uncleared : ¬Cleared calendar report.cleanedAt e session) : Lingering e session := by
    refine ⟨live, ?_⟩
    by_contra ended
    exact uncleared (.inl ⟨live, by simpa using ended⟩)
  constructor
  · rintro ⟨parented, -⟩ session isSession live uncleared parent isParent cleared
    apply parented session ((left live).mpr ⟨isSession, uncleared⟩) live
    refine archives.bereft_iff.mpr fun other isOther => .inr ?_
    cases isOther.symm.trans isParent
    exact ⟨parent, parent_session isParent, cleared⟩
  · intro apart
    have parented : ∀ session ∈ e'.registry.allSessions, isLiveDelegated session = true →
        ¬Bereft e' session := by
      intro session isSession live bereft
      obtain ⟨isEarlier, uncleared⟩ := (left live).mp isSession
      refine uncleared (.inr (.inl (.lost (lingering live uncleared) fun parent isParent => ?_)))
      refine .inl ((archives.bereft_iff.mp bereft parent isParent).resolve_right ?_)
      rintro ⟨same, isSame, cleared⟩
      cases isSame.symm.trans (parent_session isParent)
      exact apart session isEarlier live uncleared parent isParent cleared
    refine ⟨parented, fun again state clock => ?_⟩
    rw [state]
    refine quiet_cleanup (fun session isSession live => ?_) state clock
    obtain ⟨isEarlier, uncleared⟩ := (left live).mp isSession
    have running := lingering live uncleared
    refine ⟨⟨live, ?_⟩, parented session isSession live, fun elapsed => ?_⟩
    · have kept := mem_allSessions.mp isSession
      rw [(archives.others _ ((archives.session_cases live).mp kept).2).2]
      exact running.2
    · exact uncleared (.inr (.inr ⟨running, elapsed⟩))

theorem not_cleared_of_not_live
    (notLive : isLiveDelegated session = false) : ¬Cleared calendar cleanedAt e session := by
  have notLingering : ¬Lingering e session := by simp [Lingering, notLive]
  intro cleared
  rcases cleared with finished | orphaned | ⟨lingering, -⟩
  · simp [Finished, notLive] at finished
  · exact notLingering orphaned.lingering
  · exact notLingering lingering

def threeChildren : Attended CrewEngine Surroundings :=
  attendedBy (crewOf
    [crewSession 1 "r" none, crewSession 2 "f" (some "r"), crewSession 3 "c" (some "r"),
      crewSession 4 "o" (some "missing")]
    [crewRun "done" "f" .completed, crewRun "busy" "c" .running, crewRun "lost" "o" .running])

theorem cleanup_settles_three_children :
    (cleanupDelegatedResources crewCalendar threeChildren).1 =
      .ok ⟨calm.now, [⟨"f"⟩], [⟨"o"⟩], [], 0⟩ ∧
    ∀ session ∈ (cleanupDelegatedResources crewCalendar threeChildren).2.state.registry.allSessions,
      isLiveDelegated session = true →
        ¬Bereft (cleanupDelegatedResources crewCalendar threeChildren).2.state session := by
  have parents : ∀ session ∈ threeChildren.state.registry.allSessions,
      ∀ parent ∈ parentOf threeChildren.state session, isLiveDelegated parent = false := by
    decide +kernel
  refine ⟨?returned, ((cleanup_settles ?returned).mpr ?_).1⟩
  case returned => decide +kernel
  intro session isSession _ _ parent isParent
  exact not_cleared_of_not_live (parents session isSession parent isParent)

def expiringParent : Attended CrewEngine Surroundings :=
  attendedBy (crewOf
    [crewSession 1 "r" none,
      { crewSession 2 "p" (some "r") with resourceLimits := ⟨some 1000, none⟩ },
      crewSession 3 "c" (some "p")]
    [crewRun "outer" "p" .running, crewRun "inner" "c" .running])

theorem cleanup_leaves_orphan :
    let cleaned := cleanupDelegatedResources crewCalendar expiringParent
    cleaned.1 = .ok ⟨calm.now, [], [], [⟨"p"⟩], 0⟩ ∧
      (∃ session ∈ cleaned.2.state.registry.allSessions, isLiveDelegated session = true ∧
        ∃ parent ∈ parentOf cleaned.2.state session, parent.status = .archived) ∧
      (cleanupDelegatedResources crewCalendar (attendedBy cleaned.2.state)).1 =
        .ok ⟨calm.now, [], [⟨"c"⟩], [], 0⟩ := by
  decide +kernel

end RustyCrew.Proof.Engine
