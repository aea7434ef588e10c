import Uptime.Alert.Consolidation
import Uptime.Bot.Client
import Uptime.Check.Cycle
import Uptime.History.Retention
import Uptime.History.Schema
import Uptime.Settings.Validation

/-!
# The service

The service opens its database, seeds an empty catalog, and then lives by the clock: it drops
expired rows, tells the chat that it has started, checks all targets in cycles and tells the
chat what has changed.

## Main definitions

* `StartError`: why the service cannot start.
* `Service`, `Service.start`: the service.
* `Running`: the service while it runs.
* `Running.begin`, `Running.cycle`, `Running.finish`: what it does.
-/

namespace Uptime

/-- Why the service cannot start. -/
inductive StartError
  /-- The settings cannot be used. -/
  | settings (error : SettingsError)
  /-- The address of the chat service is not well-formed. -/
  | address (error : UrlError)
  /-- The version of the schema cannot be recorded, since it has been recorded before. -/
  | schema
  deriving DecidableEq, Repr

/-- The errors that stand for an error, the outermost first. -/
def StartError.causes : StartError → List String
  | settings error => error.message :: error.cause?.toList
  | address error => [(BotError.address error).message, error.message]
  | schema => ["SQLite failure: `UNIQUE constraint failed: schema_migrations.version`"]

/-- The text of an error. -/
def StartError.message (e : StartError) : String := ": ".intercalate e.causes

/-- The service. -/
structure Service where
  /-- Its settings. -/
  settings : Settings
  /-- Its bot; without one it is silent. -/
  bot : Option Bot

namespace Service

/-- The bot that settings ask for. -/
def botOf (s : Settings) : Except StartError (Option Bot) :=
  if s.bot.enabled then
    ((Bot.connect s.bot.apiBase s.bot.token s.bot.chat).mapError .address).map some
  else .ok none

/-- The service on a database, which is brought to the present schema. An empty catalog is
seeded even if the service cannot start for another reason than the targets. -/
def start (s : Settings) (db : Database) : Except StartError Service × Store :=
  let (migrated, db) := db.migrate none
  let store := db.store?.getD {}
  if migrated then
    match s.seeds with
    | .error e => (.error (.settings e), store)
    | .ok seeds =>
      ((botOf s).map fun bot => { settings := s, bot }, (store.seed seeds none).2)
  else (.error .schema, store)

/-- The policy for expired rows. -/
def policy (s : Service) : RetentionPolicy := ⟨s.settings.storage.retentionDays⟩

/-- The window within which a recovery is told by an edit. -/
def window (s : Service) : Span := recoveryWindow (.ofSeconds s.settings.check.recoveryWindow)

end Service

/-- The message about the start. -/
def startedText : String := "<b>INFO</b>\nport tracker started"

/-- The message about the end. -/
def stoppedText : String := "<b>INFO</b>\nport tracker stopped"

/-- The service while it runs. -/
structure Running (σ : Type) where
  /-- The watched targets and the store. -/
  monitor : Monitor
  /-- The messages that may still be edited. -/
  pending : Pending := {}
  /-- The state of the network. -/
  network : σ

namespace Running

variable {σ ω : Type}

/-- Tells the chat something, whether or not it is heard. -/
def tell (service : Service) (net : Network σ) (text : String) (r : Running σ) : Running σ :=
  match service.bot with
  | none => r
  | some bot => { r with network := (bot.send net text r.network).2 }

/-- Drops expired rows. -/
def clean (service : Service) (now : Instant) (r : Running σ) : Running σ :=
  { r with monitor.store := (service.policy.clean now r.monitor.store).2 }

/-- What is done before the first cycle. -/
def begin (service : Service) (net : Network σ) (now : Instant) (r : Running σ) : Running σ :=
  (r.clean service now).tell service net startedText

/-- Tells the chat the events of a cycle. -/
def alert (service : Service) (net : Network σ) (events : List Event) (r : Running σ) :
    Running σ :=
  match service.bot with
  | none => r
  | some bot =>
    let told := deliver (bot.channel net) service.window r.network r.pending events
    { r with network := told.channel, pending := told.pending }

/-- One cycle. -/
def cycle (service : Service) (net : Network σ) (p : Prober ω) (r : Running σ) (world : ω) :
    Running σ × ω :=
  let (c, world) := Cycle.run p service.settings.check.workers false true r.monitor world
  (({ r with monitor := c.monitor } : Running σ).alert service net c.events, world)

/-- What is done after the last cycle. -/
def finish (service : Service) (net : Network σ) (r : Running σ) : Running σ :=
  r.tell service net stoppedText

end Running

end Uptime
