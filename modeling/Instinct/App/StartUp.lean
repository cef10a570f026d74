import Mathlib.Data.Option.Basic

namespace Instinct.App

def exitSuccess : Int := 0

def exitFailure : Int := 1

/-- The options the start-up reads through `ConfigManager::Get` and `ConfigManager::HasKey`:
`nogui`, `load` (whether it is given, and its path), `sigterm` and `duration`, a `size_t`. -/
structure Options where
  nogui : Bool
  load : Option (List Char)
  sigterm : Bool
  duration : UInt64
  deriving DecidableEq, Repr

inductive LoadOutcome where
  | loaded
  | notLoaded
  | threw
  deriving DecidableEq, Repr

/-- What the calls outside the sources give back: the config files `FetchConfigs` could not open,
`sizeof(long double)`, `LoadFlow` on each path, `app.Create()` and `app.Run()`. Every other call,
`LOG_CRITICAL` included, is taken to return. -/
structure Platform where
  failedConfigFiles : List (List Char)
  longDoubleSize : Nat
  loadFlow : List Char → LoadOutcome
  create : Bool
  run : Int

inductive Level where
  | info
  | warn
  | error
  | critical
  deriving DecidableEq, Repr

inductive Action where
  | setProgramRootPath
  | fetchConfigs
  | setOutputPath
  | createLogger
  | checkOptions
  | log (level : Level) (text : List Char)
  | registerNodeTypes
  | registerNodeDataTypes
  | initializeAntexReader
  | setCurrentTimeToComputerTime
  /-- `showFlowWhenInvokingCallbacks` and `showFlowWhenNotifyingValueChange` set to `false`. -/
  | hideFlow
  | loadFlow (path : List Char)
  | deleteAllNodes
  | startExecutor
  | waitForSignal
  | countDownSeconds (seconds : UInt64)
  | stopExecutor
  | waitForFinish
  | disableAllCallbacks
  /-- The `NodeEditorApplication` constructed and its `Create()` called. -/
  | createApplication
  /-- `app.frameCountNavigate` set to the current frame, so that the GUI shows the flow. -/
  | navigateToFlow
  | discardChanges
  | setCurrentFilename (name : List Char)
  | runApplication
  deriving DecidableEq, Repr

inductive Exit where
  | returned (code : Int)
  | threw
  deriving DecidableEq, Repr

def quadPrecisionWarning : List Char :=
  ("You are running INSTINCT on a platform without quadruple-precision floating-point support. " ++
    "Functionality concerning time measurements and ranging could be affected by the " ++
    "precision loss.").toList

def setUp (p : Platform) : List Action :=
  [.setProgramRootPath, .fetchConfigs, .setOutputPath, .createLogger, .checkOptions] ++
    p.failedConfigFiles.map (fun configFile =>
      .log .error ("Could not open the config file: ".toList ++ configFile)) ++
    [.registerNodeTypes, .registerNodeDataTypes, .initializeAntexReader,
      .setCurrentTimeToComputerTime] ++
    if p.longDoubleSize ≠ 16 then [.log .warn quadPrecisionWarning] else []

/-- The thread that ends the flow, joined as soon as it is started: it stops the flow on a signal
with `sigterm`, or else after `duration` seconds. -/
def interrupt (o : Options) : List Action :=
  if o.nogui && o.sigterm then [.waitForSignal, .stopExecutor]
  else if o.nogui && o.duration != 0 then [.countDownSeconds o.duration, .stopExecutor]
  else []

def runFlow (o : Options) : List Action :=
  .startExecutor ::
    ((if o.nogui && (o.sigterm || o.duration != 0) then interrupt o else [.waitForFinish]) ++
      [.disableAllCallbacks, .deleteAllNodes])

/-- `LoadFlow` in no-GUI mode, in a `try` whose handler deletes the nodes: the calls, and whether
the flow loaded. -/
def tryLoadFlow (p : Platform) (path : List Char) : List Action × Bool :=
  match p.loadFlow path with
  | .loaded => ([.loadFlow path], true)
  | .notLoaded => ([.loadFlow path], false)
  | .threw => ([.loadFlow path, .deleteAllNodes, .log .error "Loading flow file failed".toList],
    false)

def noGui (o : Options) (p : Platform) : List Action × Exit :=
  let start := Action.log .info "Starting in No-GUI Mode".toList
  match o.load with
  | some path =>
    let (load, loadSuccessful) := tryLoadFlow p path
    if loadSuccessful then (start :: .hideFlow :: load ++ runFlow o, .returned exitSuccess)
    else (start :: .hideFlow :: load, .returned exitFailure)
  | none =>
    ([start, .log .critical
      "When running in No-GUI Mode you have to specify a flow file to load (-l)".toList],
      .returned exitSuccess)

def gui (o : Options) (p : Platform) : List Action × Exit :=
  let start := [Action.log .info "Starting the GUI".toList, .createApplication]
  if p.create then
    match o.load with
    | some path =>
      let load := start ++ [.log .info ("Loading flow file: ".toList ++ path), .loadFlow path]
      match p.loadFlow path with
      | .loaded => (load ++ [.navigateToFlow, .runApplication], .returned p.run)
      | .notLoaded =>
        (load ++ [.deleteAllNodes, .discardChanges, .setCurrentFilename [], .runApplication],
          .returned p.run)
      | .threw => (load, .threw)
    | none => (start ++ [.runApplication], .returned p.run)
  else (start ++ [.log .critical "Could not create the window".toList], .returned exitSuccess)

/-- `NAV::AppLogic::processCommandLineArguments`, built without `TESTING`: the calls it makes, in
order, and how it ends. Every call leaves the sources; what they return is in `Platform`. -/
def processCommandLineArguments (o : Options) (p : Platform) : List Action × Exit :=
  let run := if o.nogui then noGui o p else gui o p
  (setUp p ++ run.1, run.2)

end Instinct.App
