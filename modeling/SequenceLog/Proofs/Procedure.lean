import SequenceLog.Proofs.Contexts
/-! How the log service is used to prepare a stream: group and stream are created, and the streams
that begin with the name of the stream are listed. The first error ends this, unless it says that
what is to be created is there already. Others may use the transport between the calls. Main
statement: `prepares_by_procedure`. -/
namespace SequenceLog.CloudWatch
variable {ς : Type}

structure Exchange where
  call : Call
  outcome : Except Fault Response

def exchanges [Service ς] (service : ς) : List Call → List Exchange
  | [] => []
  | call :: rest =>
    let (behaviour, service) := Service.answer service call
    ⟨call, behaviour.outcome⟩ :: exchanges service rest

/-- What an operation exchanged with the service, and its result if it is over. -/
structure Course where
  exchanged : List Exchange
  result : Option (Except Fault Token)

def Course.after (before : List Exchange) (course : Course) : Course :=
  { course with exchanged := before ++ course.exchanged }

/-- Follows an operation from a reply that a transport gave. Where it is suspended, it goes on when its
wait is over, with the transport as it is found then, which others have used in the meantime. -/
def follow [Service ς] (c : CloudWatch ς) (reply : TokenReply ς) : List (CloudWatch ς) → Course
  | [] => ⟨exchanges c.service reply.calls, match reply.progress with
    | .finished result => some result
    | .suspended _ => none⟩
  | later :: found =>
    match reply.progress with
    | .finished result => ⟨exchanges c.service reply.calls, some result⟩
    | .suspended stage =>
      (later.follow (later.resume stage .ready) found).after (exchanges c.service reply.calls)

/-- The calls that prepare a stream. -/
def procedure (key : Key) : List Call :=
  [.createLogGroup key.group, .createLogStream key, .describeLogStreams key]

/-- An error that does not matter to a call: what it is to create is there already. -/
def Call.tolerates : Call → ServiceError → Bool
  | .createLogGroup _, error | .createLogStream _, error =>
    error.code = some (.text "ResourceAlreadyExistsException")
  | _, _ => false

section Reference
variable (outcomes : Call → Except ServiceError Response)

/-- The error of a call that matters to it. -/
def fatal? (call : Call) : Option ServiceError :=
  match outcomes call with
  | .ok _ => none
  | .error error => if call.tolerates error then none else some error

/-- The calls up to the first with an error that matters to it. -/
def upToFatal : List Call → List Call
  | [] => []
  | call :: rest => if (fatal? outcomes call).isSome then [call] else call :: upToFatal rest

end Reference

abbrev Description := List (Json.Value × Json.Value)

/-- A response lists streams. Where there are none the list may be missing. -/
def Lists (response : Response) (streams : List Description) : Prop :=
  ∃ members, response = .mapping members ∧
    (Json.Value.lookup "logStreams" members = some (.list (streams.map .mapping)) ∨
      (Json.Value.lookup "logStreams" members = none ∧ streams = []))

/-- A description is of the stream with exactly this name. -/
def Description.IsOf (stream : Text) (description : Description) : Prop :=
  Json.Value.lookup "logStreamName" description = some (.text stream)

instance (stream : Text) (description : Description) : Decidable (description.IsOf stream) :=
  inferInstanceAs (Decidable (_ = _))

/-- The upload token of the first stream with exactly this name. -/
def announced (stream : Text) (streams : List Description) : Token :=
  ((streams.find? (·.IsOf stream)).bind (Json.Value.lookup "uploadSequenceToken")).getD .null

theorem uploadToken_eq (stream : Text) (streams : List Description) :
    uploadToken stream (streams.map .mapping) = .ok (announced stream streams) := by
  induction streams with
  | nil => rfl
  | cons description rest ih =>
    by_cases own : description.IsOf stream
    · have named : Json.Value.lookup "logStreamName" description = some (.text stream) := own
      simp [uploadToken, announced, named, own]
    · have other : Json.Value.lookup "logStreamName" description ≠ some (.text stream) := own
      simp [uploadToken, announced, other, own, ih]

theorem listedToken_eq (stream : Text) {response : Response} {streams : List Description}
    (lists : Lists response streams) :
    listedToken stream response = .ok (announced stream streams) := by
  obtain ⟨members, rfl, listed | ⟨missing, rfl⟩⟩ := lists
  · simp [listedToken, listed, Json.Value.items?, uploadToken_eq]
  · simp [listedToken, missing, Json.Value.items?, uploadToken, announced]

/-- A token that is announced is that of a stream with exactly this name. -/
theorem announced_own {stream : Text} {streams : List Description}
    (present : announced stream streams ≠ .null) :
    ∃ description ∈ streams, description.IsOf stream ∧
      Json.Value.lookup "uploadSequenceToken" description = some (announced stream streams) := by
  unfold announced at present ⊢
  cases found : streams.find? (·.IsOf stream) with
  | none => simp [found] at present
  | some description =>
    have own : description.IsOf stream := by simpa using List.find?_some found
    refine ⟨description, List.mem_of_find?_eq_some found, own, ?_⟩
    cases told : Json.Value.lookup "uploadSequenceToken" description with
    | none => simp [found, told] at present
    | some token => simp [told]

section Following
variable [Service ς] {c : CloudWatch ς} {reply : TokenReply ς}

theorem follow_finished {result : Except Fault Token} (ended : reply.progress = .finished result)
    (found : List (CloudWatch ς)) :
    c.follow reply found = ⟨exchanges c.service reply.calls, some result⟩ := by
  cases found <;> simp [follow, ended]

theorem follow_suspended {stage : Stage} (waits : reply.progress = .suspended stage)
    (later : CloudWatch ς) (found : List (CloudWatch ς)) :
    c.follow reply (later :: found) =
      (later.follow (later.resume stage .ready) found).after
        (exchanges c.service reply.calls) := by
  simp [follow, waits]

theorem follow_failed (fault : Fault) (found : List (CloudWatch ς)) :
    c.follow (c.failed fault) found = ⟨[], some (.error fault)⟩ :=
  follow_finished rfl found

/-- What is exchanged first comes first in the course. -/
theorem follow_after (call : Call) (found : List (CloudWatch ς)) :
    c.follow (after [.call call] reply) found =
      ((c.request call).2.follow reply found).after [⟨call, (c.request call).1.outcome⟩] := by
  have first : exchanges c.service (after [.call call] reply).calls =
      ⟨call, (c.request call).1.outcome⟩ :: exchanges (c.request call).2.service reply.calls := rfl
  cases progress : reply.progress with
  | finished result =>
    have ended : (after [.call call] reply).progress = .finished result := progress
    rw [follow_finished ended, follow_finished progress, first]
    rfl
  | suspended stage =>
    have waits : (after [.call call] reply).progress = .suspended stage := progress
    cases found with
    | nil => simp [follow, waits, progress, first, Course.after]
    | cons later found =>
      rw [follow_suspended waits, follow_suspended progress, first]
      rfl

def calling (c : CloudWatch ς) (call : Call)
    (next : CloudWatch ς → Except Fault Response → TokenReply ς) (stage : Behaviour → Stage) :
    TokenReply ς :=
  let (behaviour, c) := c.request call
  if behaviour.delay.isZero then after [.call call] (next c behaviour.outcome)
  else ⟨c, [.call call], .suspended (stage behaviour)⟩

theorem describe_eq (held : c.client.isSome = true) (key : Key) : c.describe key =
    c.calling (.describeLogStreams key) (·.described key) (.describing key) := by
  obtain ⟨context, there⟩ := Option.isSome_iff_exists.1 held
  simp only [describe, there, calling]

theorem createStream_eq (held : c.client.isSome = true) (key : Key) : c.createStream key =
    c.calling (.createLogStream key) (·.streamCreated key) (.creatingStream key) := by
  obtain ⟨context, there⟩ := Option.isSome_iff_exists.1 held
  simp only [createStream, there, calling]

theorem ensureStream_eq (held : c.client.isSome = true) (key : Key) : c.ensureStream key =
    c.calling (.createLogGroup key.group) (·.groupCreated key) (.creatingGroup key) := by
  obtain ⟨context, there⟩ := Option.isSome_iff_exists.1 held
  simp only [ensureStream, there, calling]

/-- While a call is suspended others use the transport, but do not close it. What comes of the call is
followed from there. -/
theorem follow_calling (call : Call) (next : CloudWatch ς → Except Fault Response → TokenReply ς)
    (stage : Behaviour → Stage)
    (resumes : ∀ (later : CloudWatch ς) behaviour,
      later.resume (stage behaviour) .ready = next later behaviour.outcome)
    (held : c.client.isSome = true) {found : List (CloudWatch ς)}
    (unclosed : ∀ later ∈ found, later.client.isSome = true) (some : found ≠ []) :
    ∃ (outcome : Except Fault Response) (later : CloudWatch ς) (rest : List (CloudWatch ς)),
      later.client.isSome = true ∧ (∀ other ∈ rest, other.client.isSome = true) ∧
      found.length ≤ rest.length + 1 ∧ c.follow (c.calling call next stage) found =
        (later.follow (next later outcome) rest).after [⟨call, outcome⟩] := by
  simp only [calling]
  split
  · exact ⟨_, (c.request call).2, found, held, unclosed, Nat.le_succ _, follow_after call found⟩
  · obtain _ | ⟨later, rest⟩ := found
    · exact absurd rfl some
    · obtain ⟨now, others⟩ := List.forall_mem_cons.1 unclosed
      refine ⟨(c.request call).1.outcome, later, rest, now, others, Nat.le_refl _, ?_⟩
      rw [follow_suspended rfl, resumes]
      rfl

end Following

section Verdict
variable (outcomes : Call → Except ServiceError Response) (key : Key)

/-- What the calls come to that a preparation still has to make. -/
def verdict (calls : List Call) : Except Fault Token :=
  match calls.findSome? (fatal? outcomes) with
  | some error => .error (cannotPrepare key error)
  | none => ((outcomes (.describeLogStreams key)).mapError .service).bind (listedToken key.stream)

/-- A course goes through the calls, up to the first with an error that matters. -/
structure Course.GoesBy (calls : List Call) (course : Course) : Prop where
  exchanged : course.exchanged.map (·.call) = upToFatal outcomes calls
  result : course.result = some (verdict outcomes key calls)

/-- The service had the given outcomes in store. -/
def Course.Has (course : Course) : Prop :=
  ∀ x ∈ course.exchanged, x.outcome = (outcomes x.call).mapError .service

variable {outcomes key} {call : Call} {calls : List Call} {course : Course}

theorem Course.Has.of_after {outcome : Except Fault Response}
    (has : (course.after [⟨call, outcome⟩]).Has outcomes) :
    outcome = (outcomes call).mapError .service ∧ course.Has outcomes :=
  List.forall_mem_cons.1 has

theorem Course.goesBy_fatal {error : ServiceError} (fatal : fatal? outcomes call = some error)
    (outcome : Except Fault Response) :
    Course.GoesBy outcomes key (call :: calls)
      ⟨[⟨call, outcome⟩], some (.error (cannotPrepare key error))⟩ where
  exchanged := by simp [upToFatal, fatal]
  result := by simp [verdict, fatal]

theorem Course.GoesBy.after (goes : course.GoesBy outcomes key calls)
    (fine : fatal? outcomes call = none) (outcome : Except Fault Response) :
    (course.after [⟨call, outcome⟩]).GoesBy outcomes key (call :: calls) where
  exchanged := by simp [upToFatal, fine, ← goes.exchanged, Course.after]
  result := by simpa [verdict, fine, Course.after] using goes.result

end Verdict

section Carrying
variable [Service ς] {outcomes : Call → Except ServiceError Response} {key : Key}
  {c : CloudWatch ς} {found : List (CloudWatch ς)}

inductive Call.Creates : Call → Prop
  | group (group : Text) : Creates (.createLogGroup group)
  | stream (key : Key) : Creates (.createLogStream key)

theorem Call.Creates.tolerates {call : Call} (creates : call.Creates) (error : ServiceError) :
    call.tolerates error = error.alreadyExists := by
  cases creates <;> rw [Bool.eq_iff_iff] <;> simp [Call.tolerates, ServiceError.alreadyExists]

theorem creationFault?_outcome {call : Call} (creates : call.Creates) :
    creationFault? ((outcomes call).mapError .service) = (fatal? outcomes call).map .service := by
  unfold fatal?
  cases outcomes call with
  | ok response => rfl
  | error error =>
    have told : creationFault? ((Except.error error).mapError .service) =
        if error.alreadyExists then none else some (.service error) := rfl
    simp only [told, creates.tolerates]
    split <;> rfl

theorem goesBy_describe (held : c.client.isSome = true)
    (unclosed : ∀ later ∈ found, later.client.isSome = true) (enough : 1 ≤ found.length)
    (has : (c.follow (c.describe key) found).Has outcomes) :
    (c.follow (c.describe key) found).GoesBy outcomes key [.describeLogStreams key] := by
  rw [describe_eq held] at has ⊢
  obtain ⟨outcome, later, rest, -, -, -, course⟩ :=
    follow_calling (.describeLogStreams key) (·.described key) (.describing key)
      (fun _ _ => rfl) held unclosed (List.ne_nil_of_length_pos enough)
  rw [course] at has ⊢
  obtain ⟨rfl, -⟩ := has.of_after
  cases told : outcomes (.describeLogStreams key) with
  | error error =>
    have fatal : fatal? outcomes (.describeLogStreams key) = some error := by
      simp [fatal?, told, Call.tolerates]
    have ended : later.follow (later.described key (.error (.service error))) rest =
        ⟨[], some (.error (cannotPrepare key error))⟩ := follow_failed _ rest
    rw [show (Except.error error).mapError Fault.service = .error (.service error) from rfl, ended]
    exact Course.goesBy_fatal fatal _
  | ok response =>
    have fine : fatal? outcomes (.describeLogStreams key) = none := by simp [fatal?, told]
    have ended : later.follow (later.described key (.ok response)) rest =
        ⟨[], some (listedToken key.stream response)⟩ := follow_finished rfl rest
    have listed : verdict outcomes key [] = listedToken key.stream response := by
      rw [verdict, List.findSome?_nil, told]
      rfl
    rw [show (Except.ok response).mapError Fault.service = .ok response from rfl, ended]
    exact Course.GoesBy.after ⟨rfl, by rw [listed]⟩ fine _

/-- Something is created, and what is there already is as good. If that does not fail, what comes next
goes through the calls that are left. -/
theorem goesBy_creating {call : Call} (creates : call.Creates) {calls : List Call} {left : Nat}
    {created : CloudWatch ς → Except Fault Response → TokenReply ς}
    {next : CloudWatch ς → TokenReply ς}
    (goesOn : ∀ (later : CloudWatch ς) outcome, created later outcome =
      match creationFault? outcome with
      | some fault => later.failed (prepareFault key fault)
      | none => next later)
    (through : ∀ {later : CloudWatch ς} {found : List (CloudWatch ς)}, later.client.isSome = true →
      (∀ other ∈ found, other.client.isSome = true) → left ≤ found.length →
      (later.follow (next later) found).Has outcomes →
      (later.follow (next later) found).GoesBy outcomes key calls)
    {stage : Behaviour → Stage}
    (resumes : ∀ (later : CloudWatch ς) behaviour,
      later.resume (stage behaviour) .ready = created later behaviour.outcome)
    (held : c.client.isSome = true) (unclosed : ∀ later ∈ found, later.client.isSome = true)
    (enough : left + 1 ≤ found.length)
    (has : (c.follow (c.calling call created stage) found).Has outcomes) :
    (c.follow (c.calling call created stage) found).GoesBy outcomes key (call :: calls) := by
  obtain ⟨outcome, later, rest, now, others, length, course⟩ :=
    follow_calling call created stage resumes held unclosed (List.ne_nil_of_length_pos (by omega))
  rw [course] at has ⊢
  obtain ⟨rfl, has⟩ := has.of_after
  rw [goesOn, creationFault?_outcome creates] at has ⊢
  cases fatal : fatal? outcomes call with
  | some error =>
    simp only [Option.map_some, follow_failed]
    exact Course.goesBy_fatal fatal _
  | none =>
    simp only [fatal, Option.map_none] at has ⊢
    exact (through now others (by omega) has).after fatal _

theorem goesBy_createStream (held : c.client.isSome = true)
    (unclosed : ∀ later ∈ found, later.client.isSome = true) (enough : 2 ≤ found.length)
    (has : (c.follow (c.createStream key) found).Has outcomes) :
    (c.follow (c.createStream key) found).GoesBy outcomes key
      [.createLogStream key, .describeLogStreams key] := by
  rw [createStream_eq held] at has ⊢
  exact goesBy_creating (.stream key) (fun _ _ => rfl) goesBy_describe (fun _ _ => rfl) held unclosed
    enough has

theorem goesBy_ensureStream (held : c.client.isSome = true)
    (unclosed : ∀ later ∈ found, later.client.isSome = true) (enough : 3 ≤ found.length)
    (has : (c.follow (c.ensureStream key) found).Has outcomes) :
    (c.follow (c.ensureStream key) found).GoesBy outcomes key (procedure key) := by
  rw [ensureStream_eq held] at has ⊢
  exact goesBy_creating (.group key.group) (fun _ _ => rfl) goesBy_createStream (fun _ _ => rfl) held
    unclosed enough has

end Carrying

/-- A transport that holds a client prepares a stream, and is not closed meanwhile, though others
may use it. Each call returns or comes to an error of the service. Then the calls are those of the
procedure, up to the first with an error that matters to it. If there is such an error the
preparation fails because of it. Else it answers, for every list of streams, with the upload token
of the first one that has exactly the name of the stream, and with none where there is no such
stream or token. -/
theorem prepares_by_procedure [Service ς] {c : CloudWatch ς} (held : c.client.isSome = true) (key : Key)
    {found : List (CloudWatch ς)} (unclosed : ∀ later ∈ found, later.client.isSome = true)
    (enough : 3 ≤ found.length) {outcomes : Call → Except ServiceError Response}
    (has : (c.follow (c.ensureStream key) found).Has outcomes) :
    let course := c.follow (c.ensureStream key) found
    course.exchanged.map (·.call) = upToFatal outcomes (procedure key) ∧
    (∀ error, (procedure key).findSome? (fatal? outcomes) = some error →
      course.result = some (.error (.plain .transport
        ("Failed to prepare " ++ key.group ++ "/" ++ key.stream ++ ": " ++ error.text)
        (some (.service error))))) ∧
    ((procedure key).findSome? (fatal? outcomes) = none →
      ∀ response streams, outcomes (.describeLogStreams key) = .ok response →
        Lists response streams → course.result = some (.ok (announced key.stream streams)) ∧
          (announced key.stream streams ≠ .null → ∃ description ∈ streams,
            description.IsOf key.stream ∧ Json.Value.lookup "uploadSequenceToken" description =
              some (announced key.stream streams))) := by
  intro course
  have goes : course.GoesBy outcomes key (procedure key) :=
    goesBy_ensureStream held unclosed enough has
  refine ⟨goes.exchanged, fun error fatal => ?_, fun fine response streams told lists => ?_⟩
  · rw [goes.result, verdict, fatal]
    rfl
  · have answer : verdict outcomes key (procedure key) = .ok (announced key.stream streams) := by
      rw [verdict, fine, told]
      exact listedToken_eq key.stream lists
    exact ⟨by rw [goes.result, answer], announced_own⟩

def alreadyThere : ServiceError :=
  ⟨some (.text "ResourceAlreadyExistsException"), none, none, false, none, "CreateLogGroup"⟩

def web : Key := ⟨"app", "web-1"⟩

/-- The name of the stream that is listed first only begins with that of the other one. -/
def webs : List Description :=
  [[(.text "logStreamName", .text "web-10"), (.text "uploadSequenceToken", .text "WRONG")],
    [(.text "logStreamName", .text "web-1"), (.text "uploadSequenceToken", .text "UPLOAD")]]

/-- The group is there already, which takes a while to tell, and it takes a while to list the streams. -/
def settled : Script where
  behaviours
    | .createLogGroup => [⟨aSecond, .error (.service alreadyThere)⟩]
    | .describeLogStreams =>
      [⟨aSecond, .ok (.mapping [(.text "logStreams", .list (webs.map .mapping))])⟩]
    | _ => []

def settledOutcomes : Call → Except ServiceError Response
  | .createLogGroup _ => .error alreadyThere
  | .describeLogStreams _ => .ok (.mapping [(.text "logStreams", .list (webs.map .mapping))])
  | _ => .ok .empty

def atWork : CloudWatch Script := (CloudWatch.new "eu" none aSecond settled).connect.state

/-- Nobody else uses the transport. -/
def atWorkLater : List (CloudWatch Script) := List.replicate 3 (atWork.ensureStream web).state

theorem prepares_by_procedure_existing :
    (atWork.follow (atWork.ensureStream web) atWorkLater).Has settledOutcomes ∧
    (atWork.follow (atWork.ensureStream web) atWorkLater).exchanged.map (·.call) = procedure web ∧
    (atWork.follow (atWork.ensureStream web) atWorkLater).result =
      some (.ok (.text "UPLOAD")) := by
  have has : (atWork.follow (atWork.ensureStream web) atWorkLater).Has settledOutcomes :=
    List.forall_mem_cons.2 ⟨rfl, List.forall_mem_cons.2 ⟨rfl, List.forall_mem_singleton.2 rfl⟩⟩
  have unclosed : ∀ later ∈ atWorkLater, later.client.isSome = true := by
    intro later member
    rw [List.eq_of_mem_replicate member]
    rfl
  obtain ⟨calls, -, answers⟩ := prepares_by_procedure rfl web unclosed (Nat.le_refl 3) has
  have lists : Lists (.mapping [(.text "logStreams", .list (webs.map .mapping))]) webs :=
    ⟨_, rfl, .inl rfl⟩
  exact ⟨has, calls, (answers rfl _ webs rfl lists).1⟩

end SequenceLog.CloudWatch
