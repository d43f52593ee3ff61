import ClusterClient.Proofs.SameRequest
import ClusterClient.Proofs.CacheUse

namespace ClusterClient

def Call.Progress.Serves (c : Client) (call : Call) : Call.Progress → Prop
  | .asking request (.attempting a) =>
      a.call = call ∧ ∃ etag node, request = c.request call etag node
  | .asking _ (.bootstrapping ..) => False
  | .done outcome => ∀ execution, outcome = .ok execution → execution.fromCache = false

theorem Call.Progress.Serves.congr {c c' : Client} {call : Call} {progress : Call.Progress}
    (same : c.settings = c'.settings) (serves : progress.Serves c call) :
    progress.Serves c' call := by
  cases progress with
  | done outcome => exact serves
  | asking request waiting =>
      cases waiting with
      | bootstrapping d seed r => exact serves
      | attempting a =>
          obtain ⟨kept, etag, node, eq⟩ := serves
          exact ⟨kept, etag, node, eq.trans (Client.request_congr same call etag node)⟩

namespace Client

theorem callAt_congr {c c' : Client} {signals : Nat} (follows : c.Follows c' signals) (now : Nat)
    (d : Descriptor) : c'.callAt now d = c.callAt now d := by
  simp only [callAt, cacheKey_congr follows.settings, follows.cache, follows.ids]

theorem serves_tryNext (c : Client) (now : Nat) (call : Call) (a : Attempts) :
    (c.tryNext now call a).2.Serves c call := by
  rcases c.tryNext_cases now call a with ⟨index, node, rest, -, next⟩ | next | ⟨i, -, -, next⟩
  · rw [next]
    exact ⟨rfl, a.topology.etag, node, rfl⟩
  · rw [next]
    exact nofun
  · rw [next]
    exact nofun

theorem serves_route (c : Client) (now : Nat) (d : Descriptor) (seed : UInt64) (claimed : Bool) :
    (c.route now d seed claimed).2.Serves c (c.callAt now d) := by
  rw [route_eq]
  cases c.selector.select c.topology d.isRead seed with
  | error fault => exact nofun
  | ok order => exact (serves_tryNext _ now _ _).congr rfl

theorem serves_startCall (c : Client) (now : Nat) (d : Descriptor) (seed : UInt64) :
    (c.startCall now d seed).2.isFetching = true ∨
      (c.startCall now d seed).2.Serves c (c.callAt now d) := by
  by_cases rejected : d.scope = .database ∧ c.database? = none
  · rw [startCall, if_pos rejected]
    right
    rintro execution ⟨⟩
  · rcases c.startCall_inScope now seed rejected with
      ⟨c', request, r, next, -, -, -⟩ | ⟨c', next, follows, -⟩
    · rw [next]
      exact .inl rfl
    · rw [next, ← callAt_congr follows]
      exact .inr ((serves_route c' now d seed _).congr follows.settings)

theorem serves_resumeCall_bootstrapping (c : Client) (now : Nat) (d : Descriptor) (seed : UInt64)
    (r : Refresh) (reply : Http.Reply) :
    (c.resumeCall now (.bootstrapping d seed r) reply).2.isFetching = true ∨
      (c.resumeCall now (.bootstrapping d seed r) reply).2.Serves c (c.callAt now d) := by
  rcases c.resumeCall_bootstrapping now d seed r reply with
    ⟨c', request, r', next, -, -⟩ | ⟨c', next, follows⟩
  · rw [next]
    exact .inl rfl
  · rw [next, ← callAt_congr follows]
    exact .inr ((serves_route c' now d seed _).congr follows.settings)

theorem serves_resumeCall_attempting (c : Client) (now : Nat) (a : Attempt) (reply : Http.Reply) :
    (c.resumeCall now (.attempting a) reply).2.Serves c a.call ∨
      ∃ response entry execution, reply = .ok response ∧ response.status = 304 ∧
        a.call.cached = some entry ∧
        (c.resumeCall now (.attempting a) reply).2 = .done (.ok execution) ∧
        execution.payload = some entry.payload := by
  cases judged : c.passFault? a.call.descriptor a.node reply with
  | some fault =>
      obtain ⟨c', next, follows⟩ := resumeCall_passes c now a judged
      rw [next]
      exact .inl ((serves_tryNext c' now a.call _).congr follows.settings)
  | none =>
      obtain ⟨c', response, eq, next, -⟩ := resumeCall_ends c now a judged
      rw [next]
      unfold conclude
      split
      · split
        · rename_i confirmed
          cases cached : a.call.cached with
          | none =>
              left
              rintro execution ⟨⟩
              rfl
          | some entry =>
              right
              refine ⟨response, entry, _, eq, ?_, rfl, rfl, rfl⟩
              simpa [Http.Response.isNotModified] using confirmed
        · left
          rintro execution ⟨⟩
          rfl
      · split
        · left
          rintro execution ⟨⟩
          rfl
        · left
          rintro execution ⟨⟩
      · left
        rintro execution ⟨⟩

end Client

def Call.Progress.IsFor (d : Descriptor) : Call.Progress → Prop
  | .asking _ (.bootstrapping d' _ _) => d' = d
  | .asking _ (.attempting a) => ∃ (c : Client) (now : Nat), a.call = c.callAt now d
  | .done _ => True

theorem Call.Progress.Serves.isFor {c c' : Client} {now : Nat} {d : Descriptor}
    {progress : Call.Progress} (serves : progress.Serves c (c'.callAt now d)) :
    progress.IsFor d := by
  cases progress with
  | done outcome => trivial
  | asking request waiting =>
      cases waiting with
      | bootstrapping d' seed r => exact serves.elim
      | attempting a => exact ⟨c', now, serves.1⟩

namespace Client

theorem isFor_startCall (c : Client) (now : Nat) (d : Descriptor) (seed : UInt64) :
    (c.startCall now d seed).2.IsFor d := by
  by_cases rejected : d.scope = .database ∧ c.database? = none
  · rw [startCall, if_pos rejected]
    trivial
  · rcases c.startCall_inScope now seed rejected with
      ⟨c', request, r, next, -, -, -⟩ | ⟨c', next, -, -⟩
    · rw [next]
      rfl
    · rw [next]
      exact (serves_route c' now d seed _).isFor

theorem isFor_resumeCall (c : Client) (now : Nat) {d : Descriptor} {request : Http.Request}
    {waiting : Call.Suspended} (isFor : (Call.Progress.asking request waiting).IsFor d)
    (reply : Http.Reply) : (c.resumeCall now waiting reply).2.IsFor d := by
  cases waiting with
  | bootstrapping d' seed r =>
      cases isFor
      rcases c.resumeCall_bootstrapping now d seed r reply with
        ⟨c', request', r', next, -, -⟩ | ⟨c', next, -⟩
      · rw [next]
        rfl
      · rw [next]
        exact (serves_route c' now d seed _).isFor
  | attempting a =>
      obtain ⟨c', time, routed⟩ := isFor
      rcases c.serves_resumeCall_attempting now a reply with
        serves | ⟨response, entry, execution, -, -, -, ended, -⟩
      · rw [routed] at serves
        exact serves.isFor
      · rw [ended]
        trivial

end Client

namespace Task

theorem resume_cases (c : Client) (now : Nat) (reply : Http.Reply) (task : Task) :
    (resume c now reply task).2 = task ∨
    (∃ request waiting, task = .call (.asking request waiting) ∧
      (resume c now reply task).2 = .call (c.resumeCall now waiting reply).2) ∨
    ∃ progress, (resume c now reply task).2 = .refresh progress := by
  cases task with
  | call progress =>
      cases progress with
      | asking request waiting => exact .inr (.inl ⟨request, waiting, rfl, rfl⟩)
      | done outcome => exact .inl rfl
  | refresh progress =>
      cases progress with
      | asking request r => exact .inr (.inr ⟨_, rfl⟩)
      | done outcome => exact .inl rfl
  | queued d seed => exact .inl rfl
  | dropped => exact .inl rfl

theorem proceed_cases (c : Client) (fetching : Bool) (now : Nat) (task : Task) :
    (proceed c fetching now task).2 = task ∨
    ∃ d seed, task = .queued d seed ∧ proceed c fetching now task =
      ((c.startCall now d seed).1, .call (c.startCall now d seed).2) := by
  cases task with
  | queued d seed =>
      rcases enter_cases c fetching now d seed with ⟨-, entered⟩ | ⟨-, entered⟩
      · exact .inl (congrArg Prod.snd entered)
      · exact .inr ⟨d, seed, rfl, entered⟩
  | call progress => exact .inl rfl
  | refresh progress => exact .inl rfl
  | dropped => exact .inl rfl

theorem drop_cases (c : Client) (task : Task) :
    (drop c task).2 = task ∨ (drop c task).2 = .dropped := by
  cases task with
  | call progress => cases progress <;> simp [drop]
  | refresh progress => cases progress <;> simp [drop]
  | queued d seed => exact .inr rfl
  | dropped => exact .inr rfl

end Task

namespace Workload

def attempt? (w : Workload) (i : Nat) : Option (Http.Request × Attempt) :=
  match w.tasks[i]? with
  | some (.call (.asking request (.attempting a))) => some (request, a)
  | _ => none

theorem attempt?_eq_some_iff {w : Workload} {i : Nat} {request : Http.Request} {a : Attempt} :
    w.attempt? i = some (request, a) ↔
      w.tasks[i]? = some (.call (.asking request (.attempting a))) := by
  unfold attempt?
  split
  · rename_i located
    simp [located]
  · rename_i other
    exact ⟨nofun, fun located => absurd located (other _ _)⟩

theorem attempt?_of_le {w : Workload} {i : Nat} (beyond : w.tasks.length ≤ i) :
    w.attempt? i = none := by
  simp [attempt?, List.getElem?_eq_none beyond]

structure Routes (w : Workload) (now : Nat) (event : Event) (i : Nat) (call : Call) : Prop where
  before : w.attempt? i = none
  sends : ∃ request a, (w.step now event).attempt? i = some (request, a) ∧ a.call = call
  looksUp : call = w.client.callAt now call.descriptor

theorem tasks_updateTask {w : Workload} {i j : Nat} {f : Task → Client × Task} {task' : Task}
    (located : (w.updateTask j f).tasks[i]? = some task') :
    w.tasks[i]? = some task' ∨ j = i ∧ ∃ task, w.tasks[i]? = some task ∧ (f task).2 = task' := by
  unfold updateTask at located
  split at located
  · rename_i task found
    by_cases same : j = i
    · subst same
      obtain ⟨inside, -⟩ := List.getElem?_eq_some_iff.1 found
      rw [List.getElem?_set_self inside, Option.some.injEq] at located
      exact .inr ⟨rfl, task, found, located⟩
    · rw [List.getElem?_set_ne same] at located
      exact .inl located
  · exact .inl located

theorem tasks_updateLoop (w : Workload) (id : Nat) (f : Loop → Client) :
    (w.updateLoop id f).tasks = w.tasks := by
  unfold updateLoop
  split <;> rfl

theorem tasks_begun {tasks : List Task} {i : Nat} {begun task' : Task}
    (located : (tasks ++ [begun])[i]? = some task') :
    tasks[i]? = some task' ∨ tasks[i]? = none ∧ task' = begun := by
  rcases Nat.lt_or_ge i tasks.length with inside | beyond
  · rw [List.getElem?_append_left inside] at located
    exact .inl located
  · rw [List.getElem?_append_right beyond] at located
    exact .inr ⟨List.getElem?_eq_none beyond, List.mem_singleton.1 (List.mem_of_getElem? located)⟩

def Awaits (w : Workload) (i : Nat) (d : Descriptor) (seed : UInt64) : Prop :=
  w.tasks[i]? = none ∨ w.tasks[i]? = some (.queued d seed)

theorem Awaits.attempt? {w : Workload} {i : Nat} {d : Descriptor} {seed : UInt64}
    (awaits : w.Awaits i d seed) : w.attempt? i = none := by
  rcases awaits with new | queued
  · simp [Workload.attempt?, new]
  · simp [Workload.attempt?, queued]

theorem step_call (w : Workload) (now : Nat) (d : Descriptor) (seed : Option UInt64) :
    ∃ rotation seed', w.step now (.call d seed) =
      (let entry := Task.enter { w.client with rotation } w.isFetching now d seed'
      ⟨entry.1, w.tasks ++ [entry.2]⟩) := by
  cases seed with
  | some seed => exact ⟨w.client.rotation, seed, rfl⟩
  | none => exact ⟨w.client.rotation + 1, w.client.rotation, rfl⟩

theorem opens_rotation {c : Client} {rotation : UInt64} {d : Descriptor} :
    { c with rotation }.Opens d ↔ c.Opens d :=
  ⟨fun ⟨inScope, updates, unused⟩ => ⟨inScope, updates, unused⟩,
    fun ⟨inScope, updates, unused⟩ => ⟨inScope, updates, unused⟩⟩

theorem follows_rotation (c : Client) (rotation : UInt64) : c.Follows { c with rotation } 0 :=
  ⟨rfl, rfl, rfl, rfl⟩

/-- A task is left alone, begun or taken up with a reply, or it is not that of a call under way. It
is queued while another one fetches. -/
theorem task_step {w : Workload} {now : Nat} {event : Event} {i : Nat} {task' : Task}
    (located : (w.step now event).tasks[i]? = some task') :
    w.tasks[i]? = some task' ∨
    (∃ rotation d seed, w.Awaits i d seed ∧
      (w.step now event).client = ({ w.client with rotation }.startCall now d seed).1 ∧
      task' = .call ({ w.client with rotation }.startCall now d seed).2) ∨
    (∃ reply request waiting, event = .reply i reply ∧
      w.tasks[i]? = some (.call (.asking request waiting)) ∧
      task' = .call (w.client.resumeCall now waiting reply).2) ∨
    ((∀ progress, task' ≠ .call progress) ∧
      ∀ d seed, task' = .queued d seed →
        w.tasks[i]? = none ∧ w.isFetching = true ∧ w.client.Opens d) := by
  cases event with
  | perform op => exact .inl located
  | call d seed =>
      obtain ⟨rotation, seed', step⟩ := step_call w now d seed
      rw [step] at located ⊢
      rcases tasks_begun located with same | ⟨new, eq⟩
      · exact .inl same
      · rw [eq]
        rcases Task.enter_cases { w.client with rotation } w.isFetching now d seed' with
          ⟨⟨fetching, opens⟩, entered⟩ | ⟨-, entered⟩
        · rw [entered]
          refine .inr (.inr (.inr ⟨by simp, fun d' _ queued => ?_⟩))
          cases queued
          exact ⟨new, fetching, opens_rotation.1 opens⟩
        · rw [entered]
          exact .inr (.inl ⟨rotation, d, seed', .inl new, rfl, rfl⟩)
  | proceed j =>
      have taken : (w.updateTask j (Task.proceed w.client w.isFetching now)).tasks[i]? = _ :=
        located
      rcases tasks_updateTask taken with same | ⟨rfl, task, found, eq⟩
      · exact .inl same
      · rw [← eq]
        rcases Task.proceed_cases w.client w.isFetching now task with
          same | ⟨d, seed, rfl, next⟩
        · rw [same]
          exact .inl found
        · have client : (w.step now (.proceed j)).client = (w.client.startCall now d seed).1 := by
            simp only [step, updateTask, found, next]
          rw [next]
          exact .inr (.inl ⟨w.client.rotation, d, seed, .inr found, client, rfl⟩)
  | refresh =>
      have begun : (w.tasks ++ [.refresh w.client.startRefresh.2])[i]? = some task' := located
      rcases tasks_begun begun with same | ⟨-, rfl⟩
      · exact .inl same
      · exact .inr (.inr (.inr ⟨by simp, by simp⟩))
  | reply j reply =>
      have taken : (w.updateTask j (Task.resume w.client now reply)).tasks[i]? = _ := located
      rcases tasks_updateTask taken with same | ⟨rfl, task, found, eq⟩
      · exact .inl same
      · rw [← eq]
        rcases Task.resume_cases w.client now reply task with
          same | ⟨request, waiting, rfl, next⟩ | ⟨progress, next⟩
        · rw [same]
          exact .inl found
        · exact .inr (.inr (.inl ⟨reply, request, waiting, rfl, found, next⟩))
        · rw [next]
          exact .inr (.inr (.inr ⟨by simp, by simp⟩))
  | drop j =>
      have dropped : (w.updateTask j (Task.drop w.client)).tasks[i]? = _ := located
      rcases tasks_updateTask dropped with same | ⟨rfl, task, found, eq⟩
      · exact .inl same
      · rw [← eq]
        rcases Task.drop_cases w.client task with same | next
        · rw [same]
          exact .inl found
        · rw [next]
          exact .inr (.inr (.inr ⟨by simp, by simp⟩))
  | wake id =>
      simp only [step, updateLoop] at located
      split at located <;> exact .inl located
  | loopReply id reply =>
      simp only [step, updateLoop] at located
      split at located <;> exact .inl located

theorem length_tasks_step (w : Workload) (now : Nat) (event : Event) :
    w.tasks.length ≤ (w.step now event).tasks.length := by
  have updated (i : Nat) (f : Task → Client × Task) :
      (w.updateTask i f).tasks.length = w.tasks.length := by
    unfold updateTask
    split
    · exact List.length_set
    · rfl
  cases event with
  | perform op => exact Nat.le_refl _
  | call d seed => simp [step]
  | proceed i => exact Nat.le_of_eq (updated i _).symm
  | refresh => simp [step]
  | reply i reply => exact Nat.le_of_eq (updated i _).symm
  | drop i => exact Nat.le_of_eq (updated i _).symm
  | wake id =>
      simp only [step, updateLoop]
      split <;> exact Nat.le_refl _
  | loopReply id reply =>
      simp only [step, updateLoop]
      split <;> exact Nat.le_refl _

theorem attempt?_step {w : Workload} {now : Nat} {event : Event} {i : Nat}
    {request : Http.Request} {a : Attempt}
    (sent : (w.step now event).attempt? i = some (request, a)) :
    w.attempt? i = some (request, a) ∨
    (∃ etag node, request = w.client.request a.call etag node) ∧
      ((∃ request' a', w.attempt? i = some (request', a') ∧ a'.call = a.call) ∨
        w.Routes now event i a.call) := by
  have routed {d : Descriptor} (absent : w.attempt? i = none)
      (serves : (Call.Progress.asking request (.attempting a)).Serves w.client
        (w.client.callAt now d)) :
      (∃ etag node, request = w.client.request a.call etag node) ∧ w.Routes now event i a.call := by
    obtain ⟨kept, form⟩ := serves
    refine ⟨kept ▸ form, absent, ⟨request, a, sent, rfl⟩, ?_⟩
    rw [kept]
    rfl
  rw [attempt?_eq_some_iff] at sent ⊢
  rcases task_step sent with
    same | ⟨rotation, d, seed, awaits, -, eq⟩ | ⟨reply, request', waiting, rfl, found, eq⟩ | other
  · exact .inl same
  · right
    rw [Task.call.injEq] at eq
    have absent := awaits.attempt?
    have follows := follows_rotation w.client rotation
    rcases Client.serves_startCall { w.client with rotation } now d seed with fetching | serves
    · rw [← eq] at fetching
      cases fetching
    · rw [← eq, Client.callAt_congr follows] at serves
      obtain ⟨form, routes⟩ := routed absent (serves.congr follows.settings)
      exact ⟨form, .inr routes⟩
  · right
    rw [Task.call.injEq] at eq
    cases waiting with
    | bootstrapping d seed r =>
        have absent : w.attempt? i = none := by simp [attempt?, found]
        rcases w.client.serves_resumeCall_bootstrapping now d seed r reply with fetching | serves
        · rw [← eq] at fetching
          cases fetching
        · rw [← eq] at serves
          obtain ⟨form, routes⟩ := routed absent serves
          exact ⟨form, .inr routes⟩
    | attempting a' =>
        rcases w.client.serves_resumeCall_attempting now a' reply with
          serves | ⟨response, entry, execution, -, -, -, ended, -⟩
        · rw [← eq] at serves
          obtain ⟨kept, form⟩ := serves
          exact ⟨kept ▸ form, .inl ⟨request', a', attempt?_eq_some_iff.2 found, kept.symm⟩⟩
        · rw [← eq] at ended
          cases ended
  · exact (other.1 _ rfl).elim

theorem served_step {w : Workload} {now : Nat} {event : Event} {i : Nat} {execution : Execution}
    (ended : (w.step now event).tasks[i]? = some (.call (.done (.ok execution))))
    (fromCache : execution.fromCache = true) :
    w.tasks[i]? = some (.call (.done (.ok execution))) ∨
    ∃ response request a entry, event = .reply i (.ok response) ∧
      w.attempt? i = some (request, a) ∧ response.status = 304 ∧ a.call.cached = some entry ∧
      execution.payload = some entry.payload := by
  have plain {c : Client} {call : Call} {progress : Call.Progress}
      (eq : .done (.ok execution) = progress) (serves : progress.Serves c call) : False := by
    subst eq
    have other := serves execution rfl
    rw [fromCache] at other
    cases other
  rcases task_step ended with
    same | ⟨rotation, d, seed, -, -, eq⟩ | ⟨reply, request, waiting, rfl, found, eq⟩ | other
  · exact .inl same
  · rw [Task.call.injEq] at eq
    rcases Client.serves_startCall { w.client with rotation } now d seed with fetching | serves
    · rw [← eq] at fetching
      cases fetching
    · exact (plain eq serves).elim
  · rw [Task.call.injEq] at eq
    cases waiting with
    | bootstrapping d seed r =>
        rcases w.client.serves_resumeCall_bootstrapping now d seed r reply with fetching | serves
        · rw [← eq] at fetching
          cases fetching
        · exact (plain eq serves).elim
    | attempting a =>
        rcases w.client.serves_resumeCall_attempting now a reply with
          serves | ⟨response, entry, execution', rfl, status, cached, ended, payload⟩
        · exact (plain eq serves).elim
        · rw [← eq] at ended
          cases ended
          have sent := attempt?_eq_some_iff.2 found
          exact .inr ⟨response, request, a, entry, rfl, sent, status, cached, payload⟩
  · exact (other.1 _ rfl).elim

end Workload

end ClusterClient
