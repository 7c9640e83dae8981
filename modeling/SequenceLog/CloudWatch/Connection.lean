import SequenceLog.CloudWatch.Client
/-! Connecting to the log service, closing the connection and checking that it is usable. A
connection is a client context that was entered; it is left on closing. -/
namespace SequenceLog.CloudWatch
variable {ς : Type}

/-- Where connecting, closing or a check is suspended. -/
inductive Chore where
  | entering (context : Nat) (behaviour : Behaviour)
  | leaving (behaviour : Behaviour)
  | checking (behaviour : Behaviour)

/-- A check tells whether the service is usable; connecting and closing tell nothing. -/
abbrev ChoreReply (ς : Type) := Reply (CloudWatch ς) Chore Call (Option Bool)

def done (c : CloudWatch ς) (notices : List Notice) : ChoreReply ς :=
  ⟨c, notices.map .notice, .finished (.ok none)⟩

def refused (c : CloudWatch ς) (fault : Fault) : ChoreReply ς := ⟨c, [], .finished (.error fault)⟩

def afterCall (call : Call) (reply : ChoreReply ς) : ChoreReply ς :=
  { reply with remarks := .call call :: reply.remarks }

def connectedNotice (c : CloudWatch ς) : Notice :=
  ⟨.info, .service, "Connected to CloudWatch Logs",
    [("region", .text c.region),
      ("endpoint", .text ((customEndpoint c.endpoint).getD "AWS"))], none⟩

def connectFault (fault : Fault) : Fault :=
  if fault.isFailure then cannotConnect fault else fault

/-- The context was entered or could not be. -/
def entered (c : CloudWatch ς) (context : Nat) : Except Fault Response → ChoreReply ς
  | .error fault => c.refused (connectFault fault)
  | .ok _ => { c with client := some context, connected := true }.done [c.connectedNotice]

/-- A context is created and then entered. Nothing is done when already connected. -/
def connect [Service ς] (c : CloudWatch ς) : ChoreReply ς :=
  if c.connected then c.done []
  else
    let creation := .createClient c.region (customEndpoint c.endpoint)
    let (created, c) := c.request creation
    match created.outcome with
    | .error fault => afterCall creation (c.refused (connectFault fault))
    | .ok _ =>
      let context := c.contexts
      let c := { c with contexts := context + 1, context := some context }
      let entry := .enterContext context
      let (behaviour, c) := c.request entry
      afterCall creation <| afterCall entry <|
        if behaviour.delay.isZero then c.entered context behaviour.outcome
        else ⟨c, [], .suspended (.entering context behaviour)⟩

def closedNotice : Notice := ⟨.info, .service, "CloudWatch Logs connection closed", [], none⟩

def closeFailedNotice (fault : Fault) : Notice :=
  ⟨.warning, .service, "Error closing CloudWatch Logs client: " ++ fault.message, [], none⟩

def cleared (c : CloudWatch ς) : CloudWatch ς :=
  { c with context := none, client := none, connected := false }

/-- The context was left or could not be. A failure is reported and the connection closed all the
same. -/
def left (c : CloudWatch ς) : Except Fault Response → ChoreReply ς
  | .ok _ => c.cleared.done [closedNotice]
  | .error fault =>
    if fault.isFailure then c.cleared.done [closeFailedNotice fault, closedNotice]
    else c.refused fault

def close [Service ς] (c : CloudWatch ς) : ChoreReply ς :=
  match c.client, c.context with
  | none, _ => c.cleared.done [closedNotice]
  | some _, none => c.left (.error (nothingHeld "__aexit__"))
  | some _, some context =>
    let call := .leaveContext context
    let (behaviour, c) := c.request call
    afterCall call <|
      if behaviour.delay.isZero then c.left behaviour.outcome
      else ⟨c, [], .suspended (.leaving behaviour)⟩

/-- The time limit of a check is five seconds. -/
def checkLimit : Binary64 := .ofRatio false 5 1

def healthCheck [Service ς] (c : CloudWatch ς) : ChoreReply ς :=
  match c.client with
  | none => ⟨c, [], .finished (.ok (some false))⟩
  | some _ =>
    let call := .describeLogGroups 1
    let (behaviour, c) := c.request call
    ⟨c, [.call call], .suspended (.checking behaviour)⟩

def checked (c : CloudWatch ς) : Except Fault Response → ChoreReply ς
  | .ok _ => ⟨c, [], .finished (.ok (some true))⟩
  | .error fault =>
    if fault.isFailure then ⟨c, [], .finished (.ok (some false))⟩ else c.refused fault

def resumeChore (c : CloudWatch ς) (chore : Chore) : Signal → ChoreReply ς
  | .interrupted => c.refused .stopped
  | .expired =>
    match chore with
    | .checking _ => ⟨c, [], .finished (.ok (some false))⟩
    | _ => c.refused .stopped
  | .ready =>
    match chore with
    | .entering context behaviour => c.entered context behaviour.outcome
    | .leaving behaviour => c.left behaviour.outcome
    | .checking behaviour => c.checked behaviour.outcome

def choreWait : Chore → Wait
  | .entering _ behaviour | .leaving behaviour => .pause behaviour.delay
  | .checking behaviour => .call behaviour.delay checkLimit

end SequenceLog.CloudWatch
