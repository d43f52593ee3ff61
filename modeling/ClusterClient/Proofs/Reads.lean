import ClusterClient.Proofs.Tasks

namespace ClusterClient

/-! ## Deciding responses -/

def StatusPolicy.leadsOn (p : StatusPolicy) (d : Descriptor) (r : Http.Response) : Bool :=
  match p.classify d r with
  | .failed (.retry ..) => true
  | _ => false

/-- The response that a call ends with, which is the first that does not lead it on. -/
def decidingResponse? (p : StatusPolicy) (d : Descriptor) (course : List Stage)
    (turns : List Turn) : Option Http.Response :=
  (received course turns).find? (!p.leadsOn d ·)

theorem Client.leadsOn_eq (c : Client) (d : Descriptor) (node : Node) (r : Http.Response) :
    c.settings.statuses.leadsOn d r = (c.passFault? d node (.ok r)).isSome := by
  unfold passFault? StatusPolicy.leadsOn
  dsimp only
  split <;> simp_all

def Descriptor.readUse (d : Descriptor) (key : Option Cache.Key) (r : Http.Response) :
    List Cache.Operation :=
  if r.isSuccess then
    match key, r.etag? with
    | some key, some validator => [.put key validator r.body]
    | some key, none => [.remove key]
    | none, _ => []
  else if r.status = 404 ∧ d.requireExistence = false then key.toList.map .remove
  else []

theorem Descriptor.readUse_none (d : Descriptor) (r : Http.Response) : d.readUse none r = [] := by
  unfold readUse
  split
  · rfl
  · split <;> rfl

theorem Client.responseUse_read (c : Client) {a : Attempt}
    (isRead : a.call.descriptor.isRead = true) (r : Http.Response) :
    c.responseUse a r = a.call.descriptor.readUse a.call.key r := by
  unfold Descriptor.readUse
  cases success : r.isSuccess with
  | true =>
      rw [responseUse_success success, stales, isRead]
      exact List.append_nil _
  | false =>
      unfold responseUse
      cases disposition : c.settings.statuses.classify a.call.descriptor r with
      | success =>
          have confirmed := (classify_success disposition).resolve_left (by simp [success])
          have status : r.status = 304 := by simpa [Http.Response.isNotModified] using confirmed
          simp [confirmed, status]
      | notFound => simp [classify_eq_notFound disposition, isRead]
      | failed setback =>
          have other : r.status ≠ 404 := fun absent => by
            simp [classify_of_absent _ _ absent] at disposition
          simp [other]

/-! ## Own steps -/

def Call.Progress.RunsOn (c : Client) (d : Descriptor) : Call.Progress → Prop
  | .asking request (.bootstrapping d' _ _) => d' = d ∧ ∃ node, request = c.fetchRequest node
  | .asking request (.attempting a) => ∃ (c' : Client) (now : Nat), c'.settings = c.settings ∧
      a.call = c'.callAt now d ∧ ∃ etag node, request = c'.request a.call etag node
  | .done _ => True

theorem Call.Progress.Serves.runsOn {c c' : Client} (same : c'.settings = c.settings) {now : Nat}
    {d : Descriptor} {progress : Call.Progress} (serves : progress.Serves c' (c'.callAt now d)) :
    progress.RunsOn c d := by
  cases progress with
  | done outcome => trivial
  | asking request waiting =>
      cases waiting with
      | bootstrapping d' seed r => exact serves.elim
      | attempting a =>
          obtain ⟨kept, etag, node, sent⟩ := serves
          exact ⟨c', now, same, kept, etag, node, kept ▸ sent⟩

namespace Client

theorem ifNoneMatch_fetchRequest (c : Client) (node : Node) :
    (c.fetchRequest node).headers.find? Http.Field.ifNoneMatch = none := by
  cases key : c.settings.apiKey <;> simp +decide [fetchRequest, key, Http.Headers.find?_cons]

theorem request_askNext {c c' : Client} {snapshot : Topology} {places : List Node}
    {failures : List NodeFailure} {request : Http.Request} {r : Refresh}
    (next : c.askNext snapshot places failures = (c', .asking request r)) :
    request = c.fetchRequest r.asked := by
  cases places with
  | nil => cases next
  | cons node rest =>
      cases next
      rfl

theorem request_startRefresh {c c' : Client} {request : Http.Request} {r : Refresh}
    (next : c.startRefresh = (c', .asking request r)) : request = c.fetchRequest r.asked := by
  rw [startRefresh] at next
  exact (request_askNext next).trans (fetchRequest_congr rfl r.asked)

theorem request_resumeRefresh {c c' : Client} {now : Nat} {r r' : Refresh} {reply : Http.Reply}
    {request : Http.Request} (next : c.resumeRefresh now r reply = (c', .asking request r')) :
    request = c.fetchRequest r'.asked := by
  unfold resumeRefresh at next
  split at next
  · cases next
  · exact request_askNext next

theorem runsOn_startCall (c : Client) (now : Nat) (d : Descriptor) (seed : UInt64) :
    (c.startCall now d seed).2.RunsOn c d := by
  by_cases rejected : d.scope = .database ∧ c.database? = none
  · rw [startCall, if_pos rejected]
    trivial
  · rcases c.startCall_inScope now seed rejected with
      ⟨c', request, r, next, started, -, -⟩ | ⟨c', next, follows, -⟩
    · rw [next]
      exact ⟨rfl, r.asked, request_startRefresh started⟩
    · rw [next]
      exact (serves_route c' now d seed _).runsOn follows.settings

theorem runsOn_resumeCall {c c₀ : Client} (same : c.settings = c₀.settings) (now : Nat)
    {d : Descriptor} {request : Http.Request} {waiting : Call.Suspended}
    (runs : (Call.Progress.asking request waiting).RunsOn c₀ d) (reply : Http.Reply) :
    (c.resumeCall now waiting reply).2.RunsOn c₀ d := by
  cases waiting with
  | bootstrapping d' seed r =>
      obtain ⟨rfl, -⟩ := runs
      rw [resumeCall]
      cases next : c.resumeRefresh now r reply with
      | mk c' progress =>
          cases progress with
          | asking request r' =>
              have sent := (request_resumeRefresh next).trans (fetchRequest_congr same r'.asked)
              exact ⟨rfl, r'.asked, sent⟩
          | done outcome =>
              have follows := follows_resumeRefresh c now r reply
              rw [next] at follows
              obtain ⟨c'', routed, booted⟩ := c'.finishBootstrap_routes now d' seed true
              dsimp only
              rw [routed]
              exact (serves_route c'' now d' seed _).runsOn
                ((follows.trans booted).settings.trans same)
  | attempting a =>
      obtain ⟨c', time, settings, routed, -⟩ := runs
      rcases c.serves_resumeCall_attempting now a reply with
        serves | ⟨response, entry, execution, -, -, -, ended, -⟩
      · rw [routed] at serves
        exact (serves.congr (same.trans settings.symm)).runsOn settings
      · rw [ended]
        trivial

end Client

namespace Call.Progress.RunsOn

variable {c : Client} {d : Descriptor} {request : Http.Request}

section
variable {a : Attempt} (runs : RunsOn c d (.asking request (.attempting a)))
include runs

theorem descriptor : a.call.descriptor = d := by
  obtain ⟨c', now, -, routed, -⟩ := runs
  rw [routed]
  rfl

theorem key : a.call.key = c.cacheKey d := by
  obtain ⟨c', now, same, routed, -⟩ := runs
  rw [routed, ← Client.cacheKey_congr same]
  rfl

end

theorem unconditional {waiting : Call.Suspended} (runs : RunsOn c d (.asking request waiting))
    (uncached : c.cacheKey d = none) : request.headers.find? Http.Field.ifNoneMatch = none := by
  cases waiting with
  | bootstrapping d' seed r =>
      obtain ⟨-, node, rfl⟩ := runs
      exact c.ifNoneMatch_fetchRequest node
  | attempting a =>
      obtain ⟨c', now, same, routed, etag, node, sent⟩ := runs
      rw [← Client.cacheKey_congr same] at uncached
      rw [sent, Client.request, Client.ifNoneMatch_requestHeaders, routed, Client.callAt, uncached]
      rfl

end Call.Progress.RunsOn

theorem Client.resumeCall_read {c c₀ : Client} (same : c.settings = c₀.settings) {d : Descriptor}
    (isRead : d.isRead = true) (now : Nat) {request : Http.Request} {waiting : Call.Suspended}
    (runs : (Call.Progress.asking request waiting).RunsOn c₀ d) (reply : Http.Reply) :
    let before : Call.Progress := .asking request waiting
    let step := c.resumeCall now waiting reply
    ((∀ a r, waiting = .attempting a → reply = .ok r →
        c₀.settings.statuses.leadsOn d r = true) ∧
      (before.isFetching = false → step.2.isFetching = false) ∧
      step.1.cache = c.cache.after now
        (if before.isFetching && !step.2.isFetching then c₀.lookups d else [])) ∨
    ∃ a r, waiting = .attempting a ∧ reply = .ok r ∧ c₀.settings.statuses.leadsOn d r = false ∧
      (∃ outcome, step.2 = .done outcome) ∧
      step.1.cache = c.cache.after now (d.readUse (c₀.cacheKey d) r) := by
  intro before step
  have uses : step.1.cache = c.cache.after now (c.replyUse now reply waiting) :=
    c.cache_resumeCall now waiting reply
  cases waiting with
  | bootstrapping d' seed r =>
      obtain ⟨rfl, -⟩ := runs
      have fetching : before.isFetching = true := rfl
      refine .inl ⟨by simp, by simp [fetching], ?_⟩
      have use : c.replyUse now reply (.bootstrapping d' seed r) =
          if step.2.isFetching then [] else c.lookups d' := rfl
      rw [uses, use, fetching, lookups, cacheKey_congr same, lookups]
      cases step.2.isFetching <;> rfl
  | attempting a =>
      have about : a.call.descriptor = d := runs.descriptor
      have judgement {r : Http.Response} (answer : reply = .ok r) :
          c₀.settings.statuses.leadsOn d r =
            (c.passFault? a.call.descriptor a.node reply).isSome := by
        rw [← same, ← about, leadsOn_eq c _ a.node, answer]
      cases judged : c.passFault? a.call.descriptor a.node reply with
      | some fault =>
          obtain ⟨c', next, follows⟩ := c.resumeCall_passes now a judged
          have step_eq : step = c'.tryNext now a.call _ := next
          refine .inl ⟨fun a' r _ answer => ?_, fun _ => ?_, ?_⟩
          · rw [judgement answer, judged, Option.isSome_some]
          · rw [step_eq, isFetching_tryNext]
          · rw [step_eq, cache_tryNext, follows.cache]
            rfl
      | none =>
          obtain ⟨c', r, answer, next, -⟩ := c.resumeCall_ends now a judged
          have use : c.replyUse now reply (.attempting a) = d.readUse (c₀.cacheKey d) r := by
            rw [answer, ← runs.key, ← about]
            exact c.responseUse_read (about ▸ isRead) r
          rw [use] at uses
          refine .inr ⟨a, r, rfl, answer, ?_, ⟨_, congrArg Prod.snd next⟩, uses⟩
          rw [judgement answer, judged, Option.isSome_none]

theorem stage_runsOn (c : Client) {d : Descriptor} (turns : List Turn) (w : Workload)
    (c' : Client) (same : c'.settings = c.settings) (progress : Call.Progress)
    (runs : progress.RunsOn c d) :
    ∀ s ∈ (w.stage (c', progress)).course turns, s.progress.RunsOn c d := by
  induction turns generalizing w c' progress with
  | nil => exact List.forall_mem_singleton.2 runs
  | cons turn turns ih =>
      cases progress with
      | done outcome =>
          rw [course_done]
          exact List.forall_mem_singleton.2 runs
      | asking request waiting =>
          rw [course_asking]
          let beside := { w with client := c' }.run turn.others
          have settings : beside.client.settings = c.settings :=
            (Workload.settings_run _ turn.others).trans same
          have kept : (beside.client.resumeCall turn.now waiting turn.reply).1.settings =
              c.settings := (congrArg Prod.fst (Client.frame_resumeCall ..)).trans settings
          refine List.forall_mem_cons.2 ⟨runs, ih beside _ kept _ ?_⟩
          exact Client.runsOn_resumeCall settings turn.now runs turn.reply

/-! ## The course of a read -/

def Stage.found (s : Stage) (turn : Turn) : Cache := (s.beside.run turn.others).client.cache

inductive Reading (c : Client) (d : Descriptor) : Stage → List Stage → List Turn → Prop
  | stopped {s : Stage} {turns : List Turn}
      (ends : turns = [] ∨ s.progress.outcome?.isSome = true) : Reading c d s [] turns
  | waits {s next : Stage} {turn : Turn} {rest : List Stage} {turns : List Turn}
      (waits : s.progress.outcome? = none)
      (leadsOn : ∀ r, s.response? turn = some r → c.settings.statuses.leadsOn d r = true)
      (sent : s.progress.isFetching = false → next.progress.isFetching = false)
      (uses : next.beside.client.cache = (s.found turn).after turn.now
        (if s.progress.isFetching && !next.progress.isFetching then c.lookups d else []))
      (later : Reading c d next rest turns) : Reading c d s (next :: rest) (turn :: turns)
  | decided {s last : Stage} {turn : Turn} {turns : List Turn} {r : Http.Response}
      (waits : s.progress.outcome? = none) (reply : s.response? turn = some r)
      (final : c.settings.statuses.leadsOn d r = false)
      (ends : last.progress.outcome?.isSome = true)
      (uses : last.beside.client.cache =
        (s.found turn).after turn.now (d.readUse (c.cacheKey d) r)) :
      Reading c d s [last] (turn :: turns)

theorem stage_reads (c : Client) {d : Descriptor} (isRead : d.isRead = true)
    (turns : List Turn) (w : Workload) (c' : Client) (same : c'.settings = c.settings)
    (progress : Call.Progress) (runs : progress.RunsOn c d) :
    ∃ rest, (w.stage (c', progress)).course turns = w.stage (c', progress) :: rest ∧
      Reading c d (w.stage (c', progress)) rest turns := by
  induction turns generalizing w c' progress with
  | nil => exact ⟨[], rfl, .stopped (.inl rfl)⟩
  | cons turn turns ih =>
      cases progress with
      | done outcome => exact ⟨[], course_done w c' outcome _, .stopped (.inr rfl)⟩
      | asking request waiting =>
          rw [course_asking]
          let beside := { w with client := c' }.run turn.others
          let step := beside.client.resumeCall turn.now waiting turn.reply
          have settings : beside.client.settings = c.settings :=
            (Workload.settings_run _ turn.others).trans same
          have kept : step.1.settings = c.settings :=
            (congrArg Prod.fst (Client.frame_resumeCall ..)).trans settings
          obtain ⟨rest, split, later⟩ := ih beside step.1 kept step.2
            (Client.runsOn_resumeCall settings turn.now runs turn.reply)
          let first := w.stage (c', .asking request waiting)
          let second := beside.stage step
          refine ⟨second :: rest, congrArg _ split, ?_⟩
          rcases Client.resumeCall_read settings isRead turn.now runs turn.reply with
            ⟨leadsOn, sent, uses⟩ | ⟨a, r, rfl, reply, final, ended, uses⟩
          · refine .waits rfl (fun r answer => ?_) sent uses later
            obtain ⟨request', a, asking, reply⟩ := Stage.response?_eq_some_iff.1 answer
            cases asking
            exact leadsOn a r rfl reply
          · obtain ⟨outcome, ended⟩ := ended
            have answer : first.response? turn = some r :=
              Stage.response?_eq_some_iff.2 ⟨request, a, rfl, reply⟩
            have done : second.progress = .done outcome := ended
            rw [Stage.course_done done, List.cons.injEq] at split
            rw [← split.2]
            exact .decided rfl answer final (by rw [done]; rfl) uses

/-! ## The stages of a read -/

theorem received_cons (s : Stage) (course : List Stage) (turn : Turn) (turns : List Turn) :
    received (s :: course) (turn :: turns) =
      (s.response? turn).toList ++ received course turns := by
  rw [received, List.zip_cons_cons, List.filterMap_cons]
  cases s.response? turn <;> rfl

theorem Stage.response?_eq_none {s : Stage} (idle : s.progress.dataRequest? = none)
    (turn : Turn) : s.response? turn = none := by
  cases answer : s.response? turn with
  | none => rfl
  | some r =>
      obtain ⟨request, a, asking, -⟩ := Stage.response?_eq_some_iff.1 answer
      rw [asking] at idle
      cases idle

section
variable {p : StatusPolicy} {d : Descriptor} {s : Stage} {course : List Stage} {turn : Turn}
  {turns : List Turn}

theorem decidingResponse?_stopped (ends : turns = [] ∨ s.progress.outcome?.isSome = true) :
    decidingResponse? p d [s] turns = none := by
  unfold decidingResponse?
  rcases ends with rfl | ended
  · rfl
  · cases turns with
    | nil => rfl
    | cons turn turns =>
        have idle : s.progress.dataRequest? = none := by
          cases progress : s.progress with
          | done outcome => rfl
          | asking request waiting =>
              rw [progress] at ended
              cases ended
        rw [received_cons, Stage.response?_eq_none idle]
        rfl

theorem decidingResponse?_waits
    (leadsOn : ∀ r, s.response? turn = some r → p.leadsOn d r = true) :
    decidingResponse? p d (s :: course) (turn :: turns) = decidingResponse? p d course turns := by
  unfold decidingResponse?
  rw [received_cons]
  cases answer : s.response? turn with
  | none => rfl
  | some r => simp [leadsOn r answer]

theorem decidingResponse?_decided {r : Http.Response} (reply : s.response? turn = some r)
    (final : p.leadsOn d r = false) :
    decidingResponse? p d (s :: course) (turn :: turns) = some r := by
  simp [decidingResponse?, received_cons, reply, final]

end

def timed (now : Nat) (course : List Stage) (turns : List Turn) : List (Stage × Nat) :=
  course.zip (now :: turns.map (·.now))

theorem Reading.map_fst_timed {c : Client} {d : Descriptor} {s : Stage} {rest : List Stage}
    {turns : List Turn} (reading : Reading c d s rest turns) (now : Nat) :
    (timed now (s :: rest) turns).map (·.1) = s :: rest := by
  have length : rest.length ≤ turns.length := by
    induction reading with
    | stopped ends => exact Nat.zero_le _
    | waits waits leadsOn sent uses later ih => exact Nat.succ_le_succ ih
    | decided => simp
  exact List.map_fst_zip (by simpa using length)

theorem Reading.ends {c : Client} {d : Descriptor} {s : Stage} {rest : List Stage}
    {turns : List Turn} (reading : Reading c d s rest turns) {r : Http.Response}
    (decision : decidingResponse? c.settings.statuses d (s :: rest) turns = some r) (now : Nat) :
    ∃ reached ∈ timed now (s :: rest) turns, reached.1.progress.outcome?.isSome = true := by
  induction reading generalizing now with
  | stopped ends =>
      rw [decidingResponse?_stopped ends] at decision
      cases decision
  | @waits s next turn rest turns waits leadsOn sent uses later ih =>
      rw [decidingResponse?_waits leadsOn] at decision
      obtain ⟨reached, member, ended⟩ := ih decision turn.now
      exact ⟨reached, List.mem_cons_of_mem _ member, ended⟩
  | @decided s last turn turns r waits reply final ends uses =>
      exact ⟨(last, turn.now), by simp [timed], ends⟩

theorem Reading.settles {c : Client} {d : Descriptor} {s : Stage} {rest : List Stage}
    {turns : List Turn} (reading : Reading c d s rest turns) {r : Http.Response}
    (decision : decidingResponse? c.settings.statuses d (s :: rest) turns = some r) :
    ∀ last ∈ s :: rest, last.progress.outcome?.isSome = true →
      ∃ (cache : Cache) (t : Nat),
        last.beside.client.cache = cache.after t (d.readUse (c.cacheKey d) r) := by
  induction reading with
  | stopped ends =>
      rw [decidingResponse?_stopped ends] at decision
      cases decision
  | waits waits leadsOn sent uses later ih =>
      rw [decidingResponse?_waits leadsOn] at decision
      exact List.forall_mem_cons.2 ⟨by simp [waits], ih decision⟩
  | decided waits reply final ends uses =>
      rw [decidingResponse?_decided reply final] at decision
      cases decision
      exact List.forall_mem_cons.2 ⟨by simp [waits],
        List.forall_mem_singleton.2 fun _ => ⟨_, _, uses⟩⟩

/-- Where a read stands with a cache to which nothing else has been done since it began. -/
inductive Standing (c : Client) (d : Descriptor) (before : Cache) (since : Nat)
    (decision : Option Http.Response) (s : Stage) (t : Nat) : Prop
  | fetching (still : s.progress.isFetching = true) (kept : s.beside.client.cache = before)
  | sent (sent : s.progress.isFetching = false) (lookup : Nat) (began : since ≤ lookup)
      (reached : lookup ≤ t)
      (looked : s.beside.client.cache = before.after lookup (c.lookups d))
      (undecided : s.progress.outcome?.isSome = true → decision = none)
  | decided (r : Http.Response) (decision : decision = some r)
      (ends : s.progress.outcome?.isSome = true) (lookup : Nat) (began : since ≤ lookup)
      (reached : lookup ≤ t)
      (uses : s.beside.client.cache = (before.after lookup (c.lookups d)).after t
        (d.readUse (c.cacheKey d) r))

theorem Reading.undecided {c : Client} {d : Descriptor} {s : Stage} {rest : List Stage}
    {turns : List Turn} (reading : Reading c d s rest turns)
    (ended : s.progress.outcome?.isSome = true) :
    decidingResponse? c.settings.statuses d (s :: rest) turns = none := by
  cases reading with
  | stopped ends => exact decidingResponse?_stopped ends
  | waits waits => simp [waits] at ended
  | decided waits => simp [waits] at ended

theorem Reading.stands {c : Client} {d : Descriptor} {before : Cache} {since : Nat} {s : Stage}
    {rest : List Stage} {turns : List Turn} (reading : Reading c d s rest turns) {t : Nat}
    (began : since ≤ t) (ordered : (t :: turns.map (·.now)).Pairwise (· ≤ ·))
    (quiet : Quiet (s :: rest) turns)
    (stands : Standing c d before since
      (decidingResponse? c.settings.statuses d (s :: rest) turns) s t) :
    ∀ reached ∈ timed t (s :: rest) turns, Standing c d before since
      (decidingResponse? c.settings.statuses d (s :: rest) turns) reached.1 reached.2 := by
  -- Nothing else is done to the cache, so that every reply finds it as the stage has left it.
  induction reading generalizing t with
  | stopped ends => exact List.forall_mem_singleton.2 stands
  | @waits s next turn rest turns waits leadsOn sent uses later ih =>
      obtain ⟨first, ordered⟩ := List.pairwise_cons.1 ordered
      have le : t ≤ turn.now := first turn.now List.mem_cons_self
      have found : s.found turn = s.beside.client.cache :=
        quiet (s, turn) List.mem_cons_self (by simp [waits])
      rw [found] at uses
      refine List.forall_mem_cons.2 ⟨stands, ?_⟩
      have same : decidingResponse? c.settings.statuses d (s :: next :: rest) (turn :: turns) =
          decidingResponse? c.settings.statuses d (next :: rest) turns :=
        decidingResponse?_waits leadsOn
      rw [same] at stands ⊢
      have began := Nat.le_trans began le
      refine ih began ordered
        (fun exchange member => quiet exchange (List.mem_cons_of_mem _ member)) ?_
      cases stands with
      | fetching still kept =>
          rw [still, kept, Bool.true_and] at uses
          cases fetches : next.progress.isFetching with
          | true =>
              rw [fetches] at uses
              exact .fetching fetches uses
          | false =>
              rw [fetches] at uses
              exact .sent fetches turn.now began (Nat.le_refl _) uses later.undecided
      | sent sentOff lookup after reached looked undecided =>
          rw [sentOff, looked, Bool.false_and] at uses
          exact .sent (sent sentOff) lookup after (Nat.le_trans reached le) uses later.undecided
      | decided r decision ends => simp [waits] at ends
  | @decided s last turn turns r waits reply final ends uses =>
      have le : t ≤ turn.now := (List.pairwise_cons.1 ordered).1 turn.now List.mem_cons_self
      have found : s.found turn = s.beside.client.cache :=
        quiet (s, turn) List.mem_cons_self (by simp [waits])
      have decision : decidingResponse? c.settings.statuses d [s, last] (turn :: turns) = some r :=
        decidingResponse?_decided reply final
      refine List.forall_mem_cons.2 ⟨stands, List.forall_mem_singleton.2 ?_⟩
      rw [decision] at stands ⊢
      rw [found] at uses
      cases stands with
      | fetching still kept =>
          rw [Stage.response?_eq_none (Call.Progress.dataRequest?_fetching still)] at reply
          cases reply
      | sent sentOff lookup after reached looked undecided =>
          rw [looked] at uses
          exact .decided r rfl ends lookup after (Nat.le_trans reached le) uses
      | decided r decision ended => simp [waits] at ended

theorem Standing.ended {c : Client} {d : Descriptor} {before : Cache} {since : Nat}
    {decision : Option Http.Response} {s : Stage} {t : Nat}
    (stands : Standing c d before since decision s t)
    (ended : s.progress.outcome?.isSome = true) :
    ∃ lookup, since ≤ lookup ∧ lookup ≤ t ∧ s.beside.client.cache =
      (before.after lookup (c.lookups d)).after t
        (decision.elim [] (d.readUse (c.cacheKey d))) := by
  cases stands with
  | fetching still =>
      rw [Call.Progress.outcome?_fetching still] at ended
      cases ended
  | sent sent lookup began reached looked undecided =>
      rw [undecided ended]
      exact ⟨lookup, began, reached, looked⟩
  | decided r decision ends lookup began reached uses =>
      rw [decision]
      exact ⟨lookup, began, reached, uses⟩

theorem Standing.untouched {c : Client} {d : Descriptor} {before : Cache} {since : Nat}
    {decision : Option Http.Response} {s : Stage} {t : Nat} (uncached : c.cacheKey d = none)
    (stands : Standing c d before since decision s t) : s.beside.client.cache = before := by
  have unlooked : c.lookups d = [] := by
    rw [Client.lookups, uncached]
    rfl
  cases stands with
  | fetching still kept => exact kept
  | sent sent lookup began reached looked undecided =>
      rw [unlooked] at looked
      exact looked
  | decided r decision ends lookup began reached uses =>
      rw [unlooked, uncached, Descriptor.readUse_none] at uses
      exact uses

namespace Workload

variable (w : Workload) (now : Nat) {d : Descriptor} (seed : UInt64) (turns : List Turn)

theorem course_reads (isRead : d.isRead = true) :
    ∃ rest, w.course now d seed turns = w.stage (w.client.startCall now d seed) :: rest ∧
      Reading w.client d (w.stage (w.client.startCall now d seed)) rest turns :=
  stage_reads w.client isRead turns w _ (congrArg Prod.fst (Client.frame_startCall ..)) _
    (w.client.runsOn_startCall now d seed)

theorem exists_mem_timed (isRead : d.isRead = true) {s : Stage}
    (member : s ∈ w.course now d seed turns) :
    ∃ t, (s, t) ∈ timed now (w.course now d seed turns) turns := by
  obtain ⟨rest, course, reading⟩ := w.course_reads now seed turns isRead
  have all := reading.map_fst_timed now
  rw [← course] at all
  rw [← all, List.mem_map] at member
  obtain ⟨reached, member, rfl⟩ := member
  exact ⟨reached.2, member⟩

theorem course_runsOn : ∀ s ∈ w.course now d seed turns, s.progress.RunsOn w.client d :=
  stage_runsOn w.client turns w _ (congrArg Prod.fst (Client.frame_startCall ..)) _
    (w.client.runsOn_startCall now d seed)

theorem course_rejected (rejected : d.scope = .database ∧ w.client.database? = none) :
    ∃ fault, w.course now d seed turns = [⟨w, .done (.error fault)⟩] := by
  unfold course
  rw [Client.startCall, if_pos rejected, course_done]
  exact ⟨_, rfl⟩

theorem course_stands (isRead : d.isRead = true)
    (inScope : ¬(d.scope = .database ∧ w.client.database? = none))
    (ordered : (now :: turns.map (·.now)).Pairwise (· ≤ ·))
    (quiet : Quiet (w.course now d seed turns) turns) :
    ∀ reached ∈ timed now (w.course now d seed turns) turns,
      Standing w.client d w.client.cache now
        (decidingResponse? w.client.settings.statuses d (w.course now d seed turns) turns)
        reached.1 reached.2 := by
  obtain ⟨rest, course, reading⟩ := w.course_reads now seed turns isRead
  rw [course] at quiet ⊢
  refine reading.stands (Nat.le_refl now) ordered quiet ?_
  rcases w.client.startCall_inScope now seed inScope with
    ⟨c', request, r, next, -, -, follows⟩ | ⟨c', next, follows, -⟩
  · rw [next]
    exact .fetching rfl follows.cache
  · have fetching := c'.isFetching_route now d seed w.client.fetchesFirst
    have looked := c'.cache_route now d seed w.client.fetchesFirst
    rw [follows.cache, Client.lookups_congr follows, ← next] at looked
    rw [← next] at fetching
    exact .sent fetching now (Nat.le_refl now) (Nat.le_refl now) looked reading.undecided

end Workload

end ClusterClient
