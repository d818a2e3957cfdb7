import RepositoryAccess.Service.Authorize

namespace RepositoryAccess
open RepositoryAccess.Directory RepositoryAccess.Events

def Service.interruption (service : Service) (kind : ReadKind) (id : String) :
    List Step × Service :=
  let waits := fun (i : Interruption) => i.kind = kind ∧ i.id = id
  match service.interruptions.find? (decide <| waits ·) with
  | none => ([], service)
  | some found =>
    (found.steps, { service with interruptions := service.interruptions.eraseP (decide <| waits ·) })

def performAside (perform : Step → Act Answer) : List Step → Act Unit
  | [] => return
  | step :: steps => do
    let answer ← perform step
    modify fun service => { service with asides := service.asides ++ [answer] }
    performAside perform steps

def interrupted (perform : Step → Act Answer) (kind : ReadKind) (id : String) : Act Unit := do
  performAside perform (← modifyGet (·.interruption kind id))

-- A read first decides its result; then the first interruption that waits for it happens, once.
def interruptedReads (perform : Step → Act Answer) : Reads where
  role id := do
    let result := (← get).store.readRole id
    modify fun service => { service with store := service.store.note (.read .role id) }
    interrupted perform .role id
    return result
  privilege id := do
    let result := (← get).store.readPrivilege id
    modify fun service => { service with store := service.store.note (.read .privilege id) }
    interrupted perform .privilege id
    return result

def shutdown : Act Unit := modify fun service => { service.invalidate with background := none }

def react : Reaction → Act Unit
  | .invalidate => modify (·.invalidate)
  | .shutdown => shutdown

def reactAll : List Reaction → Act Unit
  | [] => return
  | reaction :: reactions => do
    react reaction
    reactAll reactions

-- With no time between two checks the background check dies as soon as it gets its first turn.
def giveTurn : Act Unit := modify fun service =>
  if service.interval = 0 then
    { service with background := service.background.map ({ · with alive := false }) }
  else service

-- One periodic check.  A check that breaks down on its read comes to nothing.
def tick (reads : Reads) : Act Unit := do
  let service ← get
  if service.isRunning && !service.resolver.latest.any (· ∈ service.store.broken) then
    let _ ← checkDirty reads

def ticks (reads : Reads) : Nat → Act Unit
  | 0 => return
  | count + 1 => do
    tick reads
    ticks reads count

-- How many checks fall due until a later moment: one at the end of every interval since the start.
def Service.due (service : Service) (later : Nat) : Nat :=
  match service.background with
  | none => 0
  | some background =>
    (later - background.startedAt) / service.interval -
      (service.clock - background.startedAt) / service.interval

def pass (reads : Reads) (milliseconds : Nat) : Act Unit := do
  giveTurn
  let later := (← get).clock + milliseconds
  ticks reads ((← get).due later)
  changeResolver (·.wait milliseconds)
  modify fun service => { service with clock := later }

-- All events are sent before the listener gets its turn, and then the channel is closed.
def listen (capacity : Nat) (events : List Event) : Act Unit := do
  giveTurn
  let listener := events.foldl Listener.send (.ofCapacity capacity)
  reactAll listener.close.drain.1

def Answer.ofGranted : Except StoreFault (Numbered Holdings) → Answer
  | .ok permissions => .granted permissions
  | .error cause => .fault cause.fault

def Answer.ofOutcome : Outcome → Answer
  | .ok entitlement => .entitled entitlement
  | .error cause => .fault cause

def Answer.ofDecision : Except StoreFault Bool → Answer
  | .ok decision => .truth decision
  | .error cause => .fault cause.fault

def currentEpoch : Act Answer := return .epoch (← get).resolver.epoch

def runningAnswer : Act Answer := return .truth (← get).isRunning

def cacheNamed (name : String) : Act Nat := modifyGet fun service =>
  let (number, requests) := service.requests.byName name
  (number, { service with requests })

def updateCache (number : Nat) (f : RequestCache → RequestCache) : Act RequestCache := do
  modify fun service => { service with requests := service.requests.update number f }
  return (← get).requests.cache number

def performWith (reads : Reads) : Step → Act Answer
  | .putRole role quiet => do
    modify (·.change fun store => (store.putRole role).advance quiet)
    return .done
  | .dropRole id quiet => do
    modify (·.change fun store => (store.dropRole id).advance quiet)
    return .done
  | .putPrivilege privilege quiet => do
    modify (·.change fun store => (store.putPrivilege privilege).advance quiet)
    return .done
  | .dropPrivilege id quiet => do
    modify (·.change fun store => (store.dropPrivilege id).advance quiet)
    return .done
  | .setGeneration generation => do
    modify (·.change fun store => { store with generation })
    return .done
  | .failReads failure => do
    modify (·.change (·.fail failure))
    return .done
  | .breakRole id => do
    modify (·.change (·.breakRole id))
    return .done
  | .heal => do
    modify (·.change (·.heal))
    return .done
  | .useLock lock => do
    modify (·.change fun store => { store with lock })
    return .done
  | .interrupt kind id steps => do
    modify fun service => { service with
      interruptions := service.interruptions ++ [⟨kind, id, steps⟩] }
    return .done
  | .putUser manager user => do
    modify (·.modifyManager manager (·.putUser user))
    return .done
  | .dropUser manager id => do
    modify (·.modifyManager manager (·.dropUser id))
    return .done
  | .putMapping manager mapping => do
    modify (·.modifyManager manager (·.putMapping mapping))
    return .done
  | .setActive realms => do
    modify fun service => { service with active := realms }
    return .done
  | .resolve role => return .ofGranted (← resolve reads role)
  | .permits role text => do
    match ← resolve reads role with
    | .error fault => return .fault fault.fault
    | .ok permissions =>
      match ← onResolver (·.create text) with
      | .error malformed => return .fault malformed.fault
      | .ok asked => return .truth (permissions.value.permits asked)
  | .create text => do
    match ← onResolver (·.create text) with
    | .error malformed => return .fault malformed.fault
    | .ok permission => return .made permission
  | .clearMint => do
    changeResolver (·.clearMint)
    return .done
  | .invalidate => do
    modify (·.invalidate)
    currentEpoch
  | .checkDirty => return .truth (← checkDirty reads)
  | .notify event => do
    react event.reaction
    currentEpoch
  | .start => do
    modify fun service =>
      if service.background.isSome then service
      else { service with background := some { startedAt := service.clock } }
    runningAnswer
  | .running => runningAnswer
  | .pass milliseconds => do
    pass reads milliseconds
    currentEpoch
  | .shutdown => do
    shutdown
    runningAnswer
  | .listen capacity events => do
    listen capacity events
    return .drained (← get).resolver.epoch
  | .describe realm principal => do
    let realm := (← get).realm realm
    return .described realm.name (realm.authenticationFault principal)
  | .entitle realm principals cache => do
    return .ofOutcome (← entitle realm principals (← cacheNamed cache))
  | .permissions realm entitlement =>
    return .ofGranted (← entitledPermissions reads realm entitlement)
  | .permitted realm text entitlement => do
    match Permission.parse text with
    | .error malformed => return .fault malformed.fault
    | .ok asked => return .ofDecision (← permitted reads realm asked entitlement)
  | .permittedAll realm texts entitlement => do
    match texts.mapM Permission.parse with
    | .error malformed => return .fault malformed.fault
    | .ok asked =>
      match ← permittedAll reads realm asked entitlement with
      | .error fault => return .fault fault.fault
      | .ok decisions => return .truths decisions
  | .check realm principals text cache => do
    match ← check reads realm principals text (← cacheNamed cache) with
    | .error fault => return .fault fault
    | .ok decision => return .truth decision
  | .subject cache authenticated request => modifyGet fun service =>
    let (number, requests) := service.requests.forCaller authenticated request
    (.cache number, { service with requests := requests.bind cache number })
  | .decision cache text => do
    let held := (← get).requests.cache (← cacheNamed cache)
    return .decided (held.decision text) held.decisionCount
  | .recordDecision cache text granted => do
    let held ← updateCache (← cacheNamed cache) (·.recordDecision text granted)
    return .recorded held.decisionCount
  | .authenticate cache principals => do
    let _ ← updateCache (← cacheNamed cache) (·.authenticate principals)
    return .done
  | .authenticated cache => do
    match ((← get).requests.cache (← cacheNamed cache)).principals with
    | some principals => return .principals principals
    | none => return .nothing
  | .outcome cache realm => do
    match ((← get).requests.cache (← cacheNamed cache)).outcome ((← get).realm realm).number with
    | some outcome => return .ofOutcome outcome
    | none => return .nothing
  | .recordOutcome cache realm result => do
    let outcome ← shareOutcome result
    let number := ((← get).realm realm).number
    let _ ← updateCache (← cacheNamed cache) (·.recordOutcome number outcome)
    return .ofOutcome outcome

-- Performs a step that stands so deep in interruptions of interruptions; deeper than that, nothing
-- happens any more.
def performWithin : Nat → Step → Act Answer
  | 0, _ => return .done
  | depth + 1, step => performWith (interruptedReads (performWithin depth)) step

-- An interruption happens once, so interruptions are never nested deeper than there are waiting ones
-- and ones that these bring along.
def perform (step : Step) : Act Answer := do
  performWithin ((← get).budget + step.size + 1) step

structure Report where
  answer : Answer
  asides : List Answer
  questions : List (String × Question)

def report (step : Step) : Act Report := do
  modify fun service => { service with asides := [], questions := [] }
  let answer ← perform step
  return ⟨answer, (← get).asides, (← get).questions⟩

end RepositoryAccess
