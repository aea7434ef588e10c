import Uptime.Proofs.Station

/-!
# An office

An office is a station whose catalog is changed, and whose check log is read, by others. What they
ask for is done by errands, which take several steps: the catalog is written, then listed, and then
the listing is adopted. The steps of all errands and those of the station are interleaved in any
order, so that a listing may be adopted long after it was made.

## Main definitions

* `Errand`, `ErrandStage`: what is asked for, and how far an errand has come.
* `Office`, `Office.step?`, `Office.runFrom?`, `Office.run?`: a station with its errands, what
  happens next, and what has happened so far.
* `Office.Step`: what a step does, in the form of a relation.
* `Errand.serve`: what is asked for, done all at once.

## Main results

* `Office.Step.of_step?`: each step is one of the relation.
* `Office.runFrom?_induction`: what every step keeps holds throughout a run.
* `Office.leads_serve`: an errand that nothing comes between does what is asked for.
-/

namespace Uptime

variable {σ : Type}

/-! ### Errands -/

/-- What is asked for. -/
inductive Errand
  /-- A target is to be written into the catalog. -/
  | upsert (name address : String) (port : Int)
  /-- A target is to be switched off. -/
  | delete (name : String)
  /-- The registry is to be brought up to date. -/
  | sync
  /-- The latest rows of a target are to be read. -/
  | logs (target : String) (days limit : Nat)
  deriving DecidableEq, Repr

/-- What is answered. -/
inductive ErrandReply
  /-- It is done. -/
  | done
  /-- It is refused. -/
  | refused (error : ChangeError)
  /-- The rows, if the target is watched. -/
  | rows (rows : Option (List Row))
  deriving DecidableEq, Repr

/-- The answer to a change of the catalog. -/
def ErrandReply.ofChange : Except ChangeError Unit → ErrandReply
  | .error e => refused e
  | .ok () => done

/-- A change of the catalog. -/
inductive CatalogChange
  /-- A definition is written. -/
  | upsert (definition : Definition)
  /-- The definition of a name is switched off. -/
  | disable (name : String)
  deriving DecidableEq, Repr

/-- The store after a change of its catalog. -/
def Store.change (s : Store) : CatalogChange → Store
  | .upsert definition => s.upsert definition
  | .disable name => s.disable name

/-- How far an errand has come. -/
inductive ErrandStage
  /-- The catalog is to be changed. -/
  | writing (change : CatalogChange)
  /-- The catalog is to be listed. -/
  | listing
  /-- The listing is to be adopted. -/
  | adopting (definitions : Option (List Definition))
  /-- The check log is to be read. -/
  | reading (query : LogQuery)
  /-- It is over. -/
  | returned (reply : ErrandReply)
  deriving DecidableEq, Repr

namespace Errand

/-- The first stage of an errand. An entry is checked before the catalog is written, and nothing is
read about a target that is not watched. -/
def start (ceiling : Nat) (m : Monitor) : Errand → ErrandStage
  | upsert name address port =>
    match Definition.ofEntry name address port with
    | .error e => .returned (.refused (.entry e))
    | .ok definition => .writing (.upsert definition)
  | delete name =>
    match checkName name with
    | .error e => .returned (.refused (.entry e))
    | .ok name => .writing (.disable name)
  | sync => .listing
  | logs target days limit =>
    match m.logQuery? ceiling target days limit with
    | none => .returned (.rows none)
    | some query => .reading query

/-- What is asked for, done all at once. -/
def serve (ceiling : Nat) (m : Monitor) (writing : Writing) (listingSucceeds readingSucceeds : Bool)
    (now : Instant) : Errand → ErrandReply × Monitor
  | upsert name address port =>
    let (answer, m) := m.upsert name address port writing listingSucceeds
    (.ofChange answer, m)
  | delete name =>
    let (answer, m) := m.delete name writing listingSucceeds
    (.ofChange answer, m)
  | sync => (.done, m.sync listingSucceeds)
  | logs target days limit => (.rows (m.logs ceiling now target days limit readingSucceeds), m)

end Errand

/-! ### Offices -/

/-- What is configured. -/
structure OfficeSettings where
  /-- The window within which a recovery is told by an edit. -/
  window : Span
  /-- The number of workers. -/
  workers : Nat
  /-- The ceiling of the number of rows that are read. -/
  ceiling : Nat

/-- A station and the errands of others. -/
structure Office (σ : Type) where
  /-- The station. -/
  station : Station σ
  /-- The errands, in the order in which they were begun. -/
  errands : List ErrandStage := []
  /-- The rounds that are over, in order. -/
  past : List Round := []
  /-- The listings that were adopted, in order. -/
  adopted : List (List Definition) := []

/-- What may happen next. Errands go by their numbers. -/
inductive OfficeMove
  /-- The station makes a move. -/
  | within (b : StationMove)
  /-- Something is asked for. -/
  | begun (errand : Errand)
  /-- The catalog is changed by an errand, if that succeeds. -/
  | written (i : Nat) (writing : Writing)
  /-- The catalog is listed by an errand, if that succeeds. -/
  | listed (i : Nat) (succeeds : Bool)
  /-- The listing of an errand is adopted. -/
  | adopted (i : Nat)
  /-- The check log is read by an errand, if that succeeds. -/
  | read (i : Nat) (now : Instant) (succeeds : Bool)
  deriving DecidableEq, Repr

/-- A move that stands for what is now done by errands. -/
def StationMove.isForeign : StationMove → Bool
  | within (.stored _) => true
  | within (.replaced _) => true
  | _ => false

/-- The listing that is to be adopted by a round. -/
def Round.adopting? (r : Round) : Option (Option (List Definition)) :=
  match r.stage with
  | .adopting definitions => some definitions
  | _ => none

/-- The listing that is adopted by a move. -/
def Station.adopts (s : Station σ) : StationMove → List (List Definition)
  | .within .adopted => s.round.adopting?.join.toList
  | _ => []

/-- The round that is over by a move. -/
def Station.concludes (s : Station σ) : StationMove → List Round
  | .begun => [s.round]
  | _ => []

namespace Office

/-- The monitor of an office. -/
abbrev monitor (o : Office σ) : Monitor := o.station.round.monitor

/-- An office with an empty registry, before its first round. -/
def fresh (store : Store) (channel : σ) : Office σ := { station := .fresh store channel }

/-- The office with another monitor. -/
def withMonitor (o : Office σ) (m : Monitor) : Office σ := { o with station.round.monitor := m }

/-- An errand has come to another stage. -/
def enter (o : Office σ) (i : Nat) (stage : ErrandStage) : Office σ :=
  { o with errands := o.errands.set i stage }

/-- The rows that answer a query; none if they cannot be read. -/
def rowsOf (o : Office σ) (query : LogQuery) (now : Instant) (succeeds : Bool) : List Row :=
  if succeeds then query.rows o.monitor.store.log now else []

section

variable (settings : OfficeSettings) (ch : Channel σ)

/-- The office after a move, unless it is not its turn. -/
def step? (o : Office σ) : OfficeMove → Option (Office σ)
  | .within b =>
    -- what others do to the store and to the registry is left to errands
    if b.isForeign then none
    else
      (o.station.step? ch settings.window settings.workers b).map fun s =>
        { o with
          station := s
          past := o.past ++ o.station.concludes b
          adopted := o.adopted ++ o.station.adopts b }
  | .begun errand =>
    some { o with errands := o.errands ++ [errand.start settings.ceiling o.monitor] }
  | .written i writing =>
    match o.errands[i]? with
    | some (.writing change) =>
      match writing with
      | .error failure => some (o.enter i (.returned (.refused (.store failure))))
      | .ok () =>
        some ((o.withMonitor { o.monitor with store := o.monitor.store.change change }).enter i
          .listing)
    | _ => none
  | .listed i succeeds =>
    match o.errands[i]? with
    | some .listing => some (o.enter i (.adopting (o.monitor.listing succeeds)))
    | _ => none
  | .adopted i =>
    match o.errands[i]? with
    | some (.adopting definitions) =>
      some { (o.withMonitor (o.monitor.adopt definitions)).enter i (.returned .done) with
        adopted := o.adopted ++ definitions.toList }
    | _ => none
  | .read i now succeeds =>
    match o.errands[i]? with
    | some (.reading query) =>
      some (o.enter i (.returned (.rows (some (o.rowsOf query now succeeds)))))
    | _ => none

/-- The office after some moves, if each comes at its turn. -/
def runFrom? (o : Office σ) (moves : List OfficeMove) : Option (Office σ) :=
  moves.foldlM (step? settings ch) o

/-- A fresh office after some moves, if each comes at its turn. -/
def run? (store : Store) (channel : σ) (moves : List OfficeMove) : Option (Office σ) :=
  runFrom? settings ch (fresh store channel) moves

end

/-! ### Steps -/

/-- What a move does to an office. -/
inductive Step (settings : OfficeSettings) (ch : Channel σ) (o : Office σ) :
    OfficeMove → Office σ → Prop
  | within {b : StationMove} {s : Station σ} (hb : b.isForeign = false)
      (h : o.station.step? ch settings.window settings.workers b = some s) :
      Step settings ch o (.within b)
        { o with
          station := s
          past := o.past ++ o.station.concludes b
          adopted := o.adopted ++ o.station.adopts b }
  | begun (errand : Errand) :
      Step settings ch o (.begun errand)
        { o with errands := o.errands ++ [errand.start settings.ceiling o.monitor] }
  | refused {i : Nat} {change : CatalogChange} (h : o.errands[i]? = some (.writing change))
      (failure : StoreFailure) :
      Step settings ch o (.written i (.error failure))
        (o.enter i (.returned (.refused (.store failure))))
  | written {i : Nat} {change : CatalogChange} (h : o.errands[i]? = some (.writing change)) :
      Step settings ch o (.written i (.ok ()))
        ((o.withMonitor { o.monitor with store := o.monitor.store.change change }).enter i .listing)
  | listed {i : Nat} (h : o.errands[i]? = some .listing) (succeeds : Bool) :
      Step settings ch o (.listed i succeeds)
        (o.enter i (.adopting (o.monitor.listing succeeds)))
  | adopted {i : Nat} {definitions : Option (List Definition)}
      (h : o.errands[i]? = some (.adopting definitions)) :
      Step settings ch o (.adopted i)
        { (o.withMonitor (o.monitor.adopt definitions)).enter i (.returned .done) with
          adopted := o.adopted ++ definitions.toList }
  | read {i : Nat} {query : LogQuery} (h : o.errands[i]? = some (.reading query)) (now : Instant)
      (succeeds : Bool) :
      Step settings ch o (.read i now succeeds)
        (o.enter i (.returned (.rows (some (o.rowsOf query now succeeds)))))

section

variable {settings : OfficeSettings} {ch : Channel σ} {o o' o'' : Office σ} {b : OfficeMove}

/-- **What a step does.** -/
theorem Step.of_step? (h : o.step? settings ch b = some o') : Step settings ch o b o' := by
  cases b with
  | within b =>
    simp only [step?] at h
    split at h
    · cases h
    · next hb =>
      obtain ⟨s, hs, rfl⟩ := Option.map_eq_some_iff.mp h
      exact .within (by simpa using hb) hs
  | begun errand =>
    cases h
    exact .begun errand
  | written i writing =>
    simp only [step?] at h
    split at h
    · next herrand =>
      split at h <;> cases h
      · exact .refused herrand _
      · exact .written herrand
    · cases h
  | listed i succeeds =>
    simp only [step?] at h
    split at h <;> cases h
    next herrand => exact .listed herrand succeeds
  | adopted i =>
    simp only [step?] at h
    split at h <;> cases h
    next herrand => exact .adopted herrand
  | read i now succeeds =>
    simp only [step?] at h
    split at h <;> cases h
    next herrand => exact .read herrand now succeeds

/-- What is a step can be made. -/
theorem Step.step?_eq (h : Step settings ch o b o') : o.step? settings ch b = some o' := by
  cases h with
  | within hb h => simp [step?, hb, h]
  | begun errand => rfl
  | refused h failure => simp [step?, h]
  | written h => simp [step?, h]
  | listed h ok => simp [step?, h]
  | adopted h => simp [step?, h]
  | read h now ok => simp [step?, h]

theorem runFrom?_append {moves more : List OfficeMove} :
    o.runFrom? settings ch (moves ++ more) =
      (o.runFrom? settings ch moves).bind fun q => q.runFrom? settings ch more := by
  rw [runFrom?, List.foldlM_append]
  rfl

theorem runFrom?_cons {moves : List OfficeMove} :
    o.runFrom? settings ch (b :: moves) =
      (o.step? settings ch b).bind fun q => q.runFrom? settings ch moves := by
  rw [runFrom?, List.foldlM_cons]
  rfl

/-- What holds at the beginning and is kept by every step holds after any moves. -/
theorem runFrom?_induction {P : Office σ → Prop} (hbegin : P o)
    (hstep : ∀ {q q' : Office σ} {b : OfficeMove}, P q → Step settings ch q b q' → P q') :
    ∀ {moves : List OfficeMove}, o.runFrom? settings ch moves = some o' → P o' :=
  foldlM_induction hbegin fun hq h => hstep hq (.of_step? h)

end

/-! ### One errand at a time -/

section

variable {settings : OfficeSettings} {ch : Channel σ} {o : Office σ} {errands : List ErrandStage}

/-- From the office `o` some moves lead to one with the monitor `m`, where the last errand has come
to a stage; the other errands and the desk are as before. -/
def Leads (settings : OfficeSettings) (ch : Channel σ) (o : Office σ)
    (errands : List ErrandStage) (m : Monitor) (stage : ErrandStage) : Prop :=
  ∃ moves q, o.runFrom? settings ch moves = some q ∧ q.monitor = m ∧
    q.errands = errands ++ [stage] ∧ q.station.desk = o.station.desk

theorem Leads.refl {stage : ErrandStage} (h : o.errands = errands ++ [stage]) :
    Leads settings ch o errands o.monitor stage :=
  ⟨[], o, rfl, rfl, h, rfl⟩

/-- One more move before some others. -/
theorem Leads.head {b : OfficeMove} {q : Office σ} {m : Monitor} {stage : ErrandStage}
    (hstep : Step settings ch o b q) (hdesk : q.station.desk = o.station.desk)
    (h : Leads settings ch q errands m stage) : Leads settings ch o errands m stage := by
  obtain ⟨moves, q', hrun, hmonitor, herrands, hdesk'⟩ := h
  refine ⟨b :: moves, q', ?_, hmonitor, herrands, hdesk'.trans hdesk⟩
  rw [runFrom?_cons, hstep.step?_eq]
  exact hrun

theorem getElem?_last {stage : ErrandStage} (h : o.errands = errands ++ [stage]) :
    o.errands[errands.length]? = some stage := by simp [h]

theorem errands_enter_last {stage : ErrandStage} (h : o.errands = errands ++ [stage])
    (stage' : ErrandStage) : (o.enter errands.length stage').errands = errands ++ [stage'] := by
  simp [enter, h]

/-- An errand that is to list the catalog brings the registry up to date. -/
theorem leads_sync (h : o.errands = errands ++ [.listing]) (ok : Bool) :
    Leads settings ch o errands (o.monitor.sync ok) (.returned .done) := by
  have hlisted := errands_enter_last h (.adopting (o.monitor.listing ok))
  refine .head (.listed (getElem?_last h) ok) rfl (.head (.adopted (getElem?_last hlisted)) rfl ?_)
  exact .refl (errands_enter_last (o := (o.enter _ _).withMonitor _) hlisted _)

/-- An errand that is to change the catalog does so, if that succeeds. -/
theorem leads_change (change : CatalogChange) (h : o.errands = errands ++ [.writing change])
    (ok : Bool) :
    Leads settings ch o errands
      ({ o.monitor with store := o.monitor.store.change change }.sync ok) (.returned .done) := by
  have hwritten := errands_enter_last
    (o := o.withMonitor { o.monitor with store := o.monitor.store.change change }) h .listing
  exact .head (.written (getElem?_last h)) rfl (leads_sync hwritten ok)

theorem leads_refused {change : CatalogChange} (h : o.errands = errands ++ [.writing change])
    (failure : StoreFailure) :
    Leads settings ch o errands o.monitor (.returned (.refused (.store failure))) :=
  .head (.refused (getElem?_last h) failure) rfl (.refl (errands_enter_last h _))

/-- **An errand that nothing comes between** does what is asked for. -/
theorem leads_serve (settings : OfficeSettings) (ch : Channel σ) (o : Office σ) (errand : Errand)
    (writing : Writing) (listingSucceeds readingSucceeds : Bool) (now : Instant) :
    let served := errand.serve settings.ceiling o.monitor writing listingSucceeds readingSucceeds
      now
    Leads settings ch o o.errands served.2 (.returned served.1) := by
  intro served
  refine .head (.begun errand) rfl ?_
  -- what is refused at once is over by that; all else goes on stage by stage
  cases errand with
  | upsert name address port =>
    simp only [served, Errand.start, Errand.serve, Monitor.upsert]
    cases Definition.ofEntry name address port with
    | error e => exact .refl rfl
    | ok definition =>
      cases writing with
      | error failure => exact leads_refused rfl failure
      | ok => exact leads_change (.upsert definition) rfl listingSucceeds
  | delete name =>
    simp only [served, Errand.start, Errand.serve, Monitor.delete]
    cases checkName name with
    | error e => exact .refl rfl
    | ok name =>
      cases writing with
      | error failure => exact leads_refused rfl failure
      | ok => exact leads_change (.disable name) rfl listingSucceeds
  | sync => exact leads_sync rfl listingSucceeds
  | logs target days limit =>
    simp only [served, Errand.start, Errand.serve, Monitor.logs]
    cases o.monitor.logQuery? settings.ceiling target days limit with
    | none => exact .refl rfl
    | some query =>
      exact .head (.read (getElem?_last rfl) now readingSucceeds) rfl
        (.refl (errands_enter_last rfl _))

end

end Office

end Uptime
