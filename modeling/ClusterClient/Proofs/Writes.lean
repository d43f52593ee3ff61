import ClusterClient.Proofs.Tasks

namespace ClusterClient

namespace Client

variable {d : Descriptor}

theorem cacheKey_write (write : d.isRead = false) (c : Client) : c.cacheKey d = none := by
  simp [cacheKey, Descriptor.isCacheable, write]

theorem lookups_write (write : d.isRead = false) (c : Client) : c.lookups d = [] := by
  rw [lookups, cacheKey_write write]
  rfl

theorem responseUse_write (write : d.isRead = false) {a : Attempt}
    (isFor : ∃ (c : Client) (now : Nat), a.call = c.callAt now d) (c : Client)
    (response : Http.Response) : c.responseUse a response =
      if response.isSuccess then [.invalidate (c.databaseFor d) d.staleStem] else [] := by
  obtain ⟨c', time, routed⟩ := isFor
  have descriptor : a.call.descriptor = d := by
    rw [routed]
    rfl
  have key : a.call.key = none := by
    rw [routed]
    exact cacheKey_write write c'
  cases success : response.isSuccess with
  | true => simp [responseUse_success success, storing, key, stales, descriptor, write]
  | false =>
      rcases responseUse_failure success c a with nothing | ⟨isRead, -⟩
      · rw [nothing]
        rfl
      · rw [descriptor, write] at isRead
        cases isRead

theorem resumeCall_write (write : d.isRead = false) (c : Client) (now : Nat)
    {request : Http.Request} {waiting : Call.Suspended}
    (isFor : (Call.Progress.asking request waiting).IsFor d) (reply : Http.Reply) :
    (∃ a response execution, waiting = .attempting a ∧ reply = .ok response ∧
      response.isSuccess = true ∧
      (c.resumeCall now waiting reply).2 = .done (.ok execution) ∧
      (c.resumeCall now waiting reply).1.cache =
        (c.cache.invalidate (c.databaseFor d) d.staleStem).1) ∨
    (∀ a response, waiting = .attempting a → reply = .ok response → response.isSuccess = false) ∧
      (c.resumeCall now waiting reply).1.cache = c.cache := by
  rw [cache_resumeCall]
  cases waiting with
  | bootstrapping d' seed r =>
      cases isFor
      have use : c.replyUse now reply (.bootstrapping d seed r) = [] := by
        rw [replyUse, lookups_write write, ite_self]
      rw [use]
      refine .inr ⟨?_, rfl⟩
      rintro a response ⟨⟩
  | attempting a =>
      cases reply with
      | error cause =>
          refine .inr ⟨?_, rfl⟩
          rintro a' response - ⟨⟩
      | ok response =>
          have use : c.replyUse now (.ok response) (.attempting a) =
              if response.isSuccess then [.invalidate (c.databaseFor d) d.staleStem] else [] :=
            responseUse_write write isFor c response
          rw [use]
          cases success : response.isSuccess with
          | true =>
              have ended := resumeCall_success c now a success
              exact .inl ⟨a, response, _, rfl, rfl, success, ended, rfl⟩
          | false =>
              refine .inr ⟨?_, rfl⟩
              rintro a' response' - ⟨⟩
              exact success

end Client

def Accepted (course : List Stage) (turns : List Turn) : Prop :=
  ∃ response ∈ received course turns, response.isSuccess = true

structure Spares (cache : Cache) (course : List Stage) (turns : List Turn) : Prop where
  refused : ¬Accepted course turns
  kept : ∀ s ∈ course, s.beside.client.cache = cache

structure Sweeps (cache swept : Cache) (course : List Stage) (turns : List Turn) : Prop where
  accepted : Accepted course turns
  ends : ∃ earlier last execution, course = earlier ++ [last] ∧
    (∀ s ∈ earlier, s.progress.outcome? = none ∧ s.beside.client.cache = cache) ∧
    last.progress = .done (.ok execution) ∧ last.beside.client.cache = swept

section
variable {cache swept : Cache} {s : Stage} {course : List Stage} {turn : Turn} {turns : List Turn}
  {request : Http.Request}

theorem Spares.wait (kept : s.beside.client.cache = cache)
    (refused : ∀ response, s.response? turn = some response → response.isSuccess = false)
    (later : Spares cache course turns) : Spares cache (s :: course) (turn :: turns) where
  refused := by
    rintro ⟨response, member, success⟩
    rcases mem_received_cons.1 member with first | rest
    · rw [refused response first] at success
      cases success
    · exact later.refused ⟨response, rest, success⟩
  kept := List.forall_mem_cons.2 ⟨kept, later.kept⟩

theorem Sweeps.now {a : Attempt} {response : Http.Response} {last : Stage} {execution : Execution}
    (asking : s.progress = .asking request (.attempting a)) (reply : turn.reply = .ok response)
    (success : response.isSuccess = true) (ends : last.progress = .done (.ok execution))
    (turns : List Turn) :
    Sweeps s.beside.client.cache last.beside.client.cache [s, last] (turn :: turns) := by
  have answer := Stage.response?_eq_some_iff.2 ⟨request, a, asking, reply⟩
  have waits : s.progress.outcome? = none := by rw [asking, Call.Progress.outcome?_asking]
  exact ⟨⟨response, mem_received_cons.2 (.inl answer), success⟩, [s], last, execution, rfl,
    List.forall_mem_singleton.2 ⟨waits, rfl⟩, ends, rfl⟩

theorem Sweeps.wait (kept : s.beside.client.cache = cache) (waits : s.progress.outcome? = none)
    (later : Sweeps cache swept course turns) :
    Sweeps cache swept (s :: course) (turn :: turns) := by
  obtain ⟨⟨response, member, success⟩, earlier, last, execution, rfl, before, ends⟩ := later
  refine ⟨⟨response, mem_received_cons.2 (.inr member), success⟩, s :: earlier, last, execution,
    rfl, ?_, ends⟩
  exact List.forall_mem_cons.2 ⟨⟨waits, kept⟩, before⟩

end

theorem course_write {d : Descriptor} (write : d.isRead = false) (turns : List Turn) (w : Workload)
    (c : Client) (progress : Call.Progress) (isFor : progress.IsFor d)
    (quiet : Quiet ((w.stage (c, progress)).course turns) turns) :
    Spares c.cache ((w.stage (c, progress)).course turns) turns ∨
      Sweeps c.cache (c.cache.invalidate (c.databaseFor d) d.staleStem).1
        ((w.stage (c, progress)).course turns) turns := by
  -- As long as the call waits, each reply finds the cache that the call began with.
  induction turns generalizing w c progress with
  | nil => exact .inl ⟨by simp [Accepted, received], by simp [Stage.course, Workload.stage]⟩
  | cons turn turns ih =>
      cases progress with
      | done outcome =>
          rw [course_done]
          have silent : received [w.stage (c, .done outcome)] (turn :: turns) = [] := rfl
          exact .inl ⟨by simp [Accepted, silent], by simp [Workload.stage]⟩
      | asking request waiting =>
          rw [course_asking] at quiet ⊢
          let beside := { w with client := c }.run turn.others
          let step := beside.client.resumeCall turn.now waiting turn.reply
          have same : beside.client.cache = c.cache := quiet _ List.mem_cons_self rfl
          have settings : beside.client.settings = c.settings := Workload.settings_run _ turn.others
          have settled : step.1.settings = c.settings :=
            (congrArg Prod.fst (Client.frame_resumeCall ..)).trans settings
          have later := ih beside step.1 step.2 (beside.client.isFor_resumeCall _ isFor _)
            fun exchange member => quiet exchange (List.mem_cons_of_mem _ member)
          rcases Client.resumeCall_write write beside.client turn.now isFor turn.reply with
            ⟨a, response, execution, rfl, reply, success, ended, swept⟩ | ⟨failure, kept⟩
          · let first := w.stage (c, .asking request (.attempting a))
            let last := beside.stage step
            have asking : first.progress = .asking request (.attempting a) := rfl
            have ended : last.progress = .done (.ok execution) := ended
            have sweeps := Sweeps.now asking reply success ended turns
            have swept : last.beside.client.cache = _ := swept
            have finished := Stage.course_done ended turns
            rw [swept, same, Client.databaseFor_congr settings, ← finished] at sweeps
            exact .inr sweeps
          · rw [kept, Client.databaseFor_congr settled, same] at later
            rcases later with spares | sweeps
            · refine .inl (spares.wait rfl ?_)
              intro response answer
              obtain ⟨request', a, asking, reply⟩ := Stage.response?_eq_some_iff.1 answer
              cases asking
              exact failure a response rfl reply
            · exact .inr (sweeps.wait rfl rfl)

theorem Descriptor.staleStem_isPrefix {d : Descriptor} (default : d.invalidates = none) :
    d.staleStem.toList <+: d.route.toList := by
  rw [staleStem, default, Option.getD_none, path, String.toList_ofList]
  exact List.takeWhile_prefix _

structure SweepsStale (w : Workload) (d : Descriptor) (course : List Stage) (turns : List Turn) :
    Prop where
  returns : Accepted course turns →
    ∃ s ∈ course, ∃ execution, s.progress = .done (.ok execution)
  sweeps : Accepted course turns → ∀ s ∈ course, s.progress.outcome?.isSome = true →
    ∀ e, e ∈ s.beside.client.cache.entries ↔ e ∈ w.client.cache.entries ∧
      ¬(e.1.database = w.client.databaseFor d ∧ d.staleStem.toList <+: e.1.route.toList)
  ownRoute : Accepted course turns → d.invalidates = none →
    ∀ s ∈ course, s.progress.outcome?.isSome = true →
    ∀ e, (⟨w.client.databaseFor d, .get, d.route⟩, e) ∉ s.beside.client.cache.entries
  spares : ¬Accepted course turns → ∀ s ∈ course, s.beside.client.cache = w.client.cache
  lookups : ∀ s ∈ course, s.beside.client.cache.hits = w.client.cache.hits ∧
    s.beside.client.cache.misses = w.client.cache.misses

theorem Spares.sweepsStale {w : Workload} {d : Descriptor} {course : List Stage}
    {turns : List Turn} (spares : Spares w.client.cache course turns) :
    SweepsStale w d course turns where
  returns accepted := (spares.refused accepted).elim
  sweeps accepted := (spares.refused accepted).elim
  ownRoute accepted := (spares.refused accepted).elim
  spares _ := spares.kept
  lookups s member := by
    have same : s.beside.client.cache = w.client.cache := spares.kept s member
    rw [same]
    exact ⟨rfl, rfl⟩

theorem Sweeps.sweepsStale {w : Workload} {d : Descriptor} {course : List Stage}
    {turns : List Turn} (sweeps : Sweeps w.client.cache
      (w.client.cache.invalidate (w.client.databaseFor d) d.staleStem).1 course turns) :
    SweepsStale w d course turns := by
  obtain ⟨accepted, earlier, last, execution, rfl, before, ends, swept⟩ := sweeps
  have place (s : Stage) (member : s ∈ earlier ++ [last]) : s ∈ earlier ∨ s = last := by
    simpa using member
  have final (s : Stage) (member : s ∈ earlier ++ [last])
      (ended : s.progress.outcome?.isSome = true) : s = last := by
    rcases place s member with waits | finished
    · rw [(before s waits).1] at ended
      cases ended
    · exact finished
  have kept (e : Cache.Key × Cache.Entry) : e ∈ last.beside.client.cache.entries ↔
      e ∈ w.client.cache.entries ∧
        ¬(e.1.database = w.client.databaseFor d ∧ d.staleStem.toList <+: e.1.route.toList) := by
    rw [swept, ← Cache.Key.isUnder_iff]
    simp [Cache.invalidate, Cache.counting, Cache.keep]
  constructor
  case returns => exact fun _ => ⟨last, by simp, execution, ends⟩
  case sweeps =>
    intro _ s member ended
    rw [final s member ended]
    exact kept
  case ownRoute =>
    intro _ default s member ended e there
    rw [final s member ended] at there
    exact ((kept _).1 there).2 ⟨rfl, Descriptor.staleStem_isPrefix default⟩
  case spares => exact fun refused => (refused accepted).elim
  case lookups =>
    intro s member
    rcases place s member with waits | rfl
    · rw [(before s waits).2]
      exact ⟨rfl, rfl⟩
    · rw [swept]
      exact ⟨rfl, rfl⟩

theorem writes_sweep_stale (w : Workload) (now : Nat) (d : Descriptor) (seed : UInt64)
    (turns : List Turn) (write : d.isRead = false)
    (quiet : Quiet (w.course now d seed turns) turns) :
    SweepsStale w d (w.course now d seed turns) turns := by
  have cache : (w.client.startCall now d seed).1.cache = w.client.cache := by
    rw [Client.cache_startCall, Client.startUse, Client.lookups_write write, ite_self]
    rfl
  have settings : (w.client.startCall now d seed).1.settings = w.client.settings :=
    congrArg Prod.fst (Client.frame_startCall ..)
  have course := course_write write turns w (w.client.startCall now d seed).1
    (w.client.startCall now d seed).2 (Client.isFor_startCall ..) quiet
  rw [cache, Client.databaseFor_congr settings] at course
  rcases course with spares | sweeps
  · exact spares.sweepsStale
  · exact sweeps.sweepsStale

def shelf : Workload := Workload.trio.run [
  (0, .perform (.cache (.put ⟨some "shop", .get, "/docs?id=1"⟩ "A:1" [49]))),
  (0, .perform (.cache (.put ⟨some "shop", .get, "/docs"⟩ "A:2" [50]))),
  (0, .perform (.cache (.put ⟨some "shop", .get, "/users"⟩ "A:3" [51]))),
  (0, .perform (.cache (.put ⟨none, .get, "/docs"⟩ "A:4" [52])))]

theorem shelf_sweepsStale :
    let d := Descriptor.new .put "/docs?id=1"
    let course := shelf.course 0 d 7 failingOver
    d.isRead = false ∧ Quiet course failingOver ∧ Accepted course failingOver ∧
      SweepsStale shelf d course failingOver := by
  intro d course
  have write : d.isRead = false := rfl
  have quiet : Quiet course failingOver := by
    unfold Quiet
    decide +kernel
  have accepted : Accepted course failingOver := ⟨⟨200, [], []⟩, by decide +kernel, rfl⟩
  exact ⟨write, quiet, accepted, writes_sweep_stale shelf 0 d 7 failingOver write quiet⟩

end ClusterClient
