import WalletScreens.Notice
import WalletScreens.Scope.Registry

/-!
A registry at work: changes of mode are announced to the observers, and themes are provided
around whatever is rendered.

An observer may ask for another toggle while it is told of one, so announcements nest.  Each such
request takes one of the observer's retoggles, which bounds the nesting.
-/

namespace WalletScreens.Scope

open Theme

/-- What an observer tells of an announcement: the mode it is given and the registry's mode at
that time, and the registry's mode once its own request to toggle is through. -/
inductive Report where
  | received (observer : SubscriptionId) (delivered current : Mode)
  | resumed (observer : SubscriptionId) (current : Mode)
deriving DecidableEq, Repr

/-- The provided themes are listed the innermost first; reports and notices in order.  The terminal
shows colours or not. -/
structure Stage where
  registry : Registry := {}
  ambient : List Definition := []
  reports : List Report := []
  notices : List Notice := []
  terminal : Bool := false

namespace Stage

def report (stage : Stage) (report : Report) : Stage :=
  { stage with reports := stage.reports ++ [report] }

def note (stage : Stage) (notices : List Notice) : Stage :=
  { stage with notices := stage.notices ++ notices }

/-- Flips the active target and announces its mode; with nothing mounted this only leaves a
notice. -/
def requestThrough (announce : Mode → Stage → Stage) (stage : Stage) : Stage :=
  match stage.registry.flipActive? with
  | some (mode, registry) => announce mode { stage with registry }
  | none => stage.note [.toggleIgnored .notMounted]

/-- Tells one observer, which asks for another toggle while it has retoggles left. -/
def tell (announce : Mode → Stage → Stage) (mode : Mode) (stage : Stage)
    (observer : SubscriptionId) : Stage :=
  let told := stage.report (.received observer mode stage.registry.mode)
  match told.registry.spendRetoggle? observer with
  | some registry =>
      let answered := requestThrough announce { told with registry }
      answered.report (.resumed observer answered.registry.mode)
  | none => told

/-- Tells the observers of a mode, those that were there when it changed.  Announcements nest
at most `depth` deep. -/
def announceWithin : Nat → Mode → Stage → Stage
  | 0, _, stage => stage
  | depth + 1, mode, stage =>
      (stage.registry.observers.map (·.id)).foldl (tell (announceWithin depth) mode) stage

/-- Tells the observers of a mode.  With `n` retoggles left announcements nest `n + 1` deep at
most. -/
def announce (mode : Mode) (stage : Stage) : Stage :=
  announceWithin (stage.registry.retoggles + 1) mode stage

/-- What components are drawn in: the provided themes and the terminal. -/
def surroundings (stage : Stage) : List Definition × Bool :=
  (stage.ambient, stage.terminal)

theorem surroundings_requestThrough {announce : Mode → Stage → Stage}
    (keeps : ∀ mode stage, (announce mode stage).surroundings = stage.surroundings)
    (stage : Stage) : (requestThrough announce stage).surroundings = stage.surroundings := by
  unfold requestThrough
  split
  · exact keeps _ _
  · rfl

theorem surroundings_tell {announce : Mode → Stage → Stage}
    (keeps : ∀ mode stage, (announce mode stage).surroundings = stage.surroundings) (mode : Mode)
    (stage : Stage) (observer : SubscriptionId) :
    (tell announce mode stage observer).surroundings = stage.surroundings := by
  unfold tell
  dsimp only
  split
  · exact surroundings_requestThrough keeps _
  · rfl

theorem surroundings_announceWithin (depth : Nat) (mode : Mode) (stage : Stage) :
    (announceWithin depth mode stage).surroundings = stage.surroundings := by
  induction depth generalizing mode stage with
  | zero => rfl
  | succ depth ih =>
      unfold announceWithin
      generalize stage.registry.observers.map (·.id) = observers
      induction observers generalizing stage with
      | nil => rfl
      | cons observer rest told => rw [List.foldl_cons, told, surroundings_tell ih]

theorem surroundings_announce (mode : Mode) (stage : Stage) :
    (announce mode stage).surroundings = stage.surroundings :=
  surroundings_announceWithin _ mode stage

def tryToggle (stage : Stage) : Except ThemeFault Mode × Stage :=
  match stage.registry.flipActive? with
  | some (mode, registry) => (.ok mode, announce mode { stage with registry })
  | none => (.error .notMounted, stage)

/-- Flips the mode from anywhere; with nothing mounted this only leaves a notice. -/
def requestToggle (stage : Stage) : Stage :=
  requestThrough announce stage

theorem surroundings_requestToggle (stage : Stage) :
    stage.requestToggle.surroundings = stage.surroundings :=
  surroundings_requestThrough surroundings_announce stage

@[simp] theorem ambient_requestToggle (stage : Stage) :
    stage.requestToggle.ambient = stage.ambient :=
  congrArg Prod.fst stage.surroundings_requestToggle

@[simp] theorem terminal_requestToggle (stage : Stage) :
    stage.requestToggle.terminal = stage.terminal :=
  congrArg Prod.snd stage.surroundings_requestToggle

/-- Moves the registry to a mode: by a flip of the active target or, with nothing mounted, for
the next one to start from. -/
def setMode (stage : Stage) (mode : Mode) : Stage :=
  if stage.registry.mode = mode then stage
  else
    match stage.registry.flipActive? with
    | some (flipped, registry) => announce flipped { stage with registry }
    | none => announce mode { stage with registry := { stage.registry with mode } }

def mount (stage : Stage) : SubscriptionId × Stage :=
  let (id, registry) := stage.registry.mount
  (id, { stage with registry })

def subscribe (stage : Stage) (target : Target) : SubscriptionId × Stage :=
  let (id, registry) := stage.registry.subscribe target
  (id, { stage with registry })

def observe (stage : Stage) (retoggles : Nat) : SubscriptionId × Stage :=
  let (id, registry) := stage.registry.observe retoggles
  (id, { stage with registry })

def unsubscribe (stage : Stage) (id : SubscriptionId) : Stage :=
  { stage with registry := stage.registry.unsubscribe id }

def useTheme (stage : Stage) : Except ThemeFault Definition :=
  match stage.ambient.head? with
  | some theme => .ok theme
  | none => .error .noProvider

/-- Provides a theme to `body`, and takes away after it all that was provided in between. -/
def providing {α : Type} (theme : Definition) (stage : Stage) (body : Stage → α × Stage) :
    α × Stage :=
  let (result, after) := body { stage with ambient := theme :: stage.ambient }
  (result,
    { after with ambient := after.ambient.drop (after.ambient.length - stage.ambient.length) })

theorem ambient_providing {α : Type} (theme : Definition) (stage : Stage)
    (body : Stage → α × Stage)
    (kept : (body { stage with ambient := theme :: stage.ambient }).2.ambient =
      theme :: stage.ambient) :
    (stage.providing theme body).2.ambient = stage.ambient := by
  simp [providing, kept]

end Stage

end WalletScreens.Scope
