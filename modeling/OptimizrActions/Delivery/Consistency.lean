import OptimizrActions.Delivery.Recordable

/-! What a ready delivery says of its synchronization. -/

namespace OptimizrActions.Delivery

/-- What was changed was synchronized and the other way around, and a snapshot was created
exactly when its name is recorded. -/
structure SyncResult.Consistent (sync : SyncResult) : Prop where
  synced : sync.changed = .bool true ↔ sync.synced = .bool true
  snapshot : sync.snapshotCreated = .bool true ↔ sync.snapshotName ≠ .null

/-- A combination of fields that the executor does not look at. -/
inductive SyncResult.Slips (sync : SyncResult) : Prop
  | unsynced : sync.changed = .bool true → sync.synced = .bool false → Slips sync
  | unnamed : sync.snapshotCreated = .bool true → sync.snapshotName = .null → Slips sync
  | uncreated {name : String} : sync.snapshotCreated = .bool false → sync.snapshotName = .str name →
    Slips sync

theorem SyncResult.consistent_iff {texts : SyncTexts} {sync : SyncResult}
    (checked : checkSync texts sync = .ok ⟨⟩) : sync.Consistent ↔ ¬sync.Slips := by
  have fields := checkSync_eq_ok checked
  obtain ⟨changed, atChanged⟩ := fields.changed
  obtain ⟨created, atCreated⟩ := fields.snapshotCreated
  obtain ⟨synced, atSynced⟩ := fields.synced
  have state : synced = true → changed = true := by
    simp only [checkSync, bind_eq_ok, require_eq_ok] at checked
    obtain ⟨_, -, _, -, _, -, state⟩ := checked
    simpa [atChanged, atSynced, Json.truthy] using state
  constructor
  · rintro ⟨same, snapshot⟩ (⟨change, sync⟩ | ⟨create, name⟩ | ⟨create, name⟩)
    · rw [same.mp change] at sync
      cases sync
    · exact snapshot.mp create name
    · rw [snapshot.mpr (by rw [name]; nofun)] at create
      cases create
  · intro whole
    constructor
    · rw [atChanged, atSynced]
      cases changed <;> cases synced
      · rfl
      · cases state rfl
      · exact absurd (.unsynced atChanged atSynced) whole
      · rfl
    · rw [atCreated]
      rcases fields.name with missing | ⟨name, named, -⟩
      · cases created
        · exact ⟨nofun, fun h => absurd missing h⟩
        · exact absurd (.unnamed atCreated missing) whole
      · cases created
        · exact absurd (.uncreated atCreated named) whole
        · exact ⟨fun _ => by rw [named]; nofun, fun _ => rfl⟩

section

variable {unicodeWord : Char → Bool} {fs : FileSystem} {spec : ExecutorSpec} {runners : Runners}
  {lock : LockHost} {result : ExecutorResult}

/-- A ready result is that of a synchronization, the one whose answer the runner gave. -/
theorem Produced.sync_of_ready {log : List Event}
    (h : Produced unicodeWord spec runners log result) (ready : result.ready = true) :
    ∃ call sync, syncCalls log = [call] ∧ runners.sync call = .ok (.result sync) ∧
      result.sync = some sync ∧ checkSync executorSyncTexts sync = .ok ⟨⟩ := by
  cases h with
  | refused _ _ _ _ _ failed => simp [executorResult, failed] at ready
  | synchronized _ _ _ one _ _ synced checked => exact ⟨_, _, one, synced, rfl, checked⟩

/-- A ready delivery is consistent exactly when the synchronization runner's answer is none of
the combinations that nobody looks at. -/
theorem executeDelivery_consistent_iff
    (returned : (executeDelivery unicodeWord fs spec runners lock []).1 = .ok result)
    (ready : result.ready = true) :
    (∃ sync, result.sync = some sync ∧ sync.Consistent) ↔
      ∀ call ∈ syncCalls (executeDelivery unicodeWord fs spec runners lock []).2, ∀ sync,
        runners.sync call = .ok (.result sync) → ¬sync.Slips := by
  obtain ⟨call, sync, one, answer, recorded, checked⟩ :=
    (produced_of_executeDelivery returned).sync_of_ready ready
  rw [one, List.forall_mem_singleton, answer, recorded]
  simp [SyncResult.consistent_iff checked]

end

def plainGate (name : String) : GateItem := sampleEvidence name "passed" ""

/-- A delivery whose gates pass around this answer of the synchronization runner. -/
def syncRunners (sync : SyncResult) : Runners :=
  { sampleRunners [plainGate "security"] [plainGate "health"] with sync := fun _ => .ok (.result sync) }

def syncedResult (sync : SyncResult) : ExecutorResult :=
  executorResult sampleRequest ⟨["checkout"], sampleSha, "refs/heads/main"⟩ (some sync)
    ⟨true, none, [sampleGate "security"]⟩ (some ⟨true, none, [sampleGate "health"]⟩)

def wholeSync : SyncResult := ⟨.bool true, .int 3, .bool true, .str "s1.tar.gz", .bool true⟩

theorem executeDelivery_consistent_sample :
    ∃ sync, (syncedResult wholeSync).sync = some sync ∧ sync.Consistent := by
  have returned : (executeDelivery (fun _ => false) sampleHost sampleSpec (syncRunners wholeSync)
      sampleLock []).1 = .ok (syncedResult wholeSync) := by
    decide +kernel
  refine (executeDelivery_consistent_iff returned rfl).mpr fun call _ sync answer => ?_
  cases answer
  rintro (⟨-, unsynced⟩ | ⟨-, unnamed⟩ | ⟨uncreated, -⟩)
  · cases unsynced
  · cases unnamed
  · cases uncreated

/-- Changed, with a snapshot that has no name, and not synchronized. -/
def brokenSync : SyncResult := ⟨.bool true, .int 3, .bool true, .null, .bool false⟩

/-- The answer that contradicts itself is reported as ready. -/
theorem executeDelivery_inconsistent :
    (executeDelivery (fun _ => false) sampleHost sampleSpec (syncRunners brokenSync)
        sampleLock []).1 = .ok (syncedResult brokenSync) ∧
      (syncedResult brokenSync).ready = true ∧ (syncedResult brokenSync).sync = some brokenSync ∧
      ¬brokenSync.Consistent := by
  refine ⟨by decide +kernel, rfl, rfl, fun consistent => ?_⟩
  cases consistent.synced.mp rfl

end OptimizrActions.Delivery
