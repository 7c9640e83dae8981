import SequenceLog.CloudWatch.ErrorMapping
import SequenceLog.CloudWatch.Service
/-! The transport to the log service. Connecting and closing enter and leave a client context;
appends are calls with a time limit; preparing a stream takes three calls in a row. Every
operation may be overtaken by the others while it is suspended. -/
namespace SequenceLog

structure CloudWatch (ς : Type) where
  region : Text
  endpoint : Option Text
  /-- Seconds that an append may take. -/
  timeout : Binary64
  service : ς
  /-- How many contexts were created so far. -/
  contexts : Nat
  context : Option Nat
  /-- The context whose client is in use. -/
  client : Option Nat
  connected : Bool

namespace CloudWatch
variable {ς : Type}

def new (region : Text) (endpoint : Option Text) (timeout : Binary64) (service : ς) :
    CloudWatch ς :=
  ⟨region, endpoint, timeout, service, 0, none, none, false⟩

/-- An endpoint that is left empty means that of the provider. -/
def customEndpoint (endpoint : Option Text) : Option Text := endpoint.filter (· ≠ "")

/-- Makes a call: the service decides on it when it is made. -/
def request [Service ς] (c : CloudWatch ς) (call : Call) : Behaviour × CloudWatch ς :=
  let (behaviour, service) := Service.answer c.service call
  (behaviour, { c with service := service })

/-- Where an append or the preparation of a stream is suspended, with the behaviour of the call
it waits for. -/
inductive Stage where
  | putting (request : Append) (limit : Binary64) (behaviour : Behaviour)
  | creatingGroup (key : Key) (behaviour : Behaviour)
  | creatingStream (key : Key) (behaviour : Behaviour)
  | describing (key : Key) (behaviour : Behaviour)

abbrev TokenReply (ς : Type) := Reply (CloudWatch ς) Stage Call Token

def failed (c : CloudWatch ς) (fault : Fault) : TokenReply ς := ⟨c, [], .finished (.error fault)⟩

/-- A token is sent only when it is not empty. -/
def wireRequest (r : Append) : Append := { r with token := r.token.orNull }

def append [Service ς] (c : CloudWatch ς) (r : Append) : TokenReply ς :=
  match c.client with
  | none => c.failed notConnected
  | some _ =>
    let call := .putLogEvents (wireRequest r)
    let (behaviour, c) := c.request call
    ⟨c, [.call call], .suspended (.putting r c.timeout behaviour)⟩

/-- The fault of an append whose call failed. Only errors of the service and passed deadlines are
mapped. -/
def putFault : Fault → Fault
  | .service error => error.appendFault
  | .plain .deadline _ _ => timedOut
  | fault => fault

def rejectedNotice (key : Key) (rejected : Json.Value) : Notice :=
  ⟨.warning, .service, "CloudWatch Logs rejected some events",
    [("group", .text key.group), ("stream", .text key.stream), ("rejected", rejected)], none⟩

def appendedNotice (key : Key) (count : Nat) : Notice :=
  ⟨.debug, .service, "Events appended to CloudWatch Logs",
    [("group", .text key.group), ("stream", .text key.stream), ("count", .int count)], none⟩

def putResult (c : CloudWatch ς) (r : Append) : Except Fault Response → TokenReply ς
  | .error fault => c.failed (putFault fault)
  | .ok (.mapping members) =>
    let rejected := (Json.Value.lookup "rejectedLogEventsInfo" members).getD .null
    let warned := if rejected.isEmpty then [] else [.notice (rejectedNotice r.key rejected)]
    ⟨c, warned ++ [.notice (appendedNotice r.key r.events.length)],
      .finished (.ok ((Json.Value.lookup "nextSequenceToken" members).getD .null))⟩
  | .ok response => c.failed (lacksMember response "get")

/-- The upload token of the first stream with exactly the given name. Descriptions after it are not
looked at. -/
def uploadToken (stream : Text) : List Json.Value → Except Fault Token
  | [] => .ok .null
  | .mapping members :: rest =>
    if Json.Value.lookup "logStreamName" members = some (.text stream) then
      .ok ((Json.Value.lookup "uploadSequenceToken" members).getD .null)
    else uploadToken stream rest
  | description :: _ => .error (lacksMember description "get")

/-- The upload token according to a list of streams. -/
def listedToken (stream : Text) : Response → Except Fault Token
  | .mapping members =>
    let streams := (Json.Value.lookup "logStreams" members).getD (.list [])
    match streams.items? with
    | some descriptions => uploadToken stream descriptions
    | none => .error (notIterable streams)
  | response => .error (lacksMember response "get")

def prepareFault (key : Key) : Fault → Fault
  | .service error => cannotPrepare key error
  | fault => fault

def described (c : CloudWatch ς) (key : Key) : Except Fault Response → TokenReply ς
  | .error fault => c.failed (prepareFault key fault)
  | .ok response => ⟨c, [], .finished (listedToken key.stream response)⟩

/-- The fault with which a call to create something ends the preparation. That the thing is there
already is none. -/
def creationFault? : Except Fault Response → Option Fault
  | .ok _ => none
  | .error (.service error) => if error.alreadyExists then none else some (.service error)
  | .error fault => some fault

/-- Adds what was remarked before a reply. -/
def after (before : List (Remark Call)) (reply : TokenReply ς) : TokenReply ς :=
  { reply with remarks := before ++ reply.remarks }

def describe [Service ς] (c : CloudWatch ς) (key : Key) : TokenReply ς :=
  match c.client with
  | none => c.failed (nothingHeld "describe_log_streams")
  | some _ =>
    let call := .describeLogStreams key
    let (behaviour, c) := c.request call
    if behaviour.delay.isZero then after [.call call] (c.described key behaviour.outcome)
    else ⟨c, [.call call], .suspended (.describing key behaviour)⟩

def streamCreated [Service ς] (c : CloudWatch ς) (key : Key) (outcome : Except Fault Response) :
    TokenReply ς :=
  match creationFault? outcome with
  | some fault => c.failed (prepareFault key fault)
  | none => c.describe key

def createStream [Service ς] (c : CloudWatch ς) (key : Key) : TokenReply ς :=
  match c.client with
  | none => c.failed (nothingHeld "create_log_stream")
  | some _ =>
    let call := .createLogStream key
    let (behaviour, c) := c.request call
    if behaviour.delay.isZero then after [.call call] (c.streamCreated key behaviour.outcome)
    else ⟨c, [.call call], .suspended (.creatingStream key behaviour)⟩

def groupCreated [Service ς] (c : CloudWatch ς) (key : Key) (outcome : Except Fault Response) :
    TokenReply ς :=
  match creationFault? outcome with
  | some fault => c.failed (prepareFault key fault)
  | none => c.createStream key

def ensureStream [Service ς] (c : CloudWatch ς) (key : Key) : TokenReply ς :=
  match c.client with
  | none => c.failed notConnected
  | some _ =>
    let call := .createLogGroup key.group
    let (behaviour, c) := c.request call
    if behaviour.delay.isZero then after [.call call] (c.groupCreated key behaviour.outcome)
    else ⟨c, [.call call], .suspended (.creatingGroup key behaviour)⟩

/-- Only an append has a time limit of its own. -/
def resume [Service ς] (c : CloudWatch ς) (stage : Stage) : Signal → TokenReply ς
  | .interrupted => c.failed .stopped
  | .expired =>
    match stage with
    | .putting .. => c.failed timedOut
    | _ => c.failed .stopped
  | .ready =>
    match stage with
    | .putting r _ behaviour => c.putResult r behaviour.outcome
    | .creatingGroup key behaviour => c.groupCreated key behaviour.outcome
    | .creatingStream key behaviour => c.streamCreated key behaviour.outcome
    | .describing key behaviour => c.described key behaviour.outcome

def wait : Stage → Wait
  | .putting _ limit behaviour => .call behaviour.delay limit
  | .creatingGroup _ behaviour | .creatingStream _ behaviour | .describing _ behaviour =>
    .pause behaviour.delay

instance [Service ς] : Transport (CloudWatch ς) Stage Call where
  append := append
  ensureStream := ensureStream
  resume := resume
  wait := wait

end CloudWatch
end SequenceLog
