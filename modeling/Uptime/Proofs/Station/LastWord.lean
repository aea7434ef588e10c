import Uptime.Channel.Script
import Uptime.Proofs.Station

/-!
# The last word and the registry

Once something has been told about a target that is registered, the last call about it tells its
status: it is a message about an outage if the target is down, and a message or an edit about a
recovery if it is up. Results that come too late, moves to another address, failures of the store
and of the channel do not change that.

## Main definitions

* `Station.SpokenSince`: an event about a target has been raised since it was registered.
* `Station.Agrees`: the last event about a target tells its status.
* `LastWord`: the last call about a target tells its status.

## Main results

* `Station.Agrees.step`, `Station.agrees_of_raised`: what a move keeps and what it brings about.
* `Station.SpokenSince.agrees`: the last event agrees with the registry at any time.
* `Station.lastWord_run`: the last call does between two rounds.
-/

namespace Uptime

variable {σ : Type}

/-- The call `n` is the last one about the target `t`, and it tells its status. -/
structure LastWord (notices : List Notice) (t : TargetState) (n : Notice) : Prop where
  last : lastNotice? notices t.name = some n
  /-- The call is about the target as it is registered. -/
  about : ∃ e ∈ n.events, e.IsAbout t.identity
  down_iff : n.Tells .down ↔ t.status = .down
  recovered_iff : n.Tells .recovered ↔ t.status = .up
  known : t.status ≠ .unknown

namespace Station

/-- A target is registered with one and the same address and port throughout the moves `during`, and
an event about it is raised by one of them. -/
structure SpokenSince (ch : Channel σ) (window : Span) (workers : Nat) (store : Store) (channel : σ)
    (id : Identity) (before during : List StationMove) : Prop where
  stays : ∀ p, p <+: during → ∃ s, run? ch window workers store channel (before ++ p) = some s ∧
    id ∈ s.registry.identities
  raised : ∃ p b after s e, during = p ++ b :: after ∧
    run? ch window workers store channel (before ++ p) = some s ∧ s.raised? b = some e ∧
      e.IsAbout id

/-- A target is registered, and the last event about it tells its status. -/
def Agrees (s : Station σ) (id : Identity) : Prop :=
  ∃ t e, s.registry.get? id.name = some t ∧ t.identity = id ∧
    lastEvent? s.story id.name = some e ∧ e.IsAbout id ∧ t.status = e.kind.status

section

variable {ch : Channel σ} {window : Span} {workers : Nat} {s s' : Station σ} {b : StationMove}
  {id : Identity}

/-- What a move does to the registry, and what it raises. -/
theorem exists_call_of_step (h : s.step? ch window workers b = some s') :
    ∃ c : Option RegistryCall, s'.registry = c.elim s.registry s.registry.call ∧
      s.raised? b = c.bind s.registry.raised? := by
  cases b with
  | begun =>
    simp only [step?] at h
    split at h <;> cases h
    exact ⟨none, rfl, rfl⟩
  | within a =>
    obtain ⟨r, hr, rfl⟩ := Option.map_eq_some_iff.mp h
    exact ⟨s.round.call? a, (Round.Step.of_step? hr).registry_eq, rfl⟩

/-- **A move brings about agreement** if it raises an event about a target that is registered. -/
theorem agrees_of_raised (hs : s.Lawful) (h : s.step? ch window workers b = some s') {e : Event}
    (he : s.raised? b = some e) (habout : e.IsAbout id) (hmem : id ∈ s'.registry.identities) :
    s'.Agrees id := by
  obtain ⟨c, hregistry, hraised⟩ := exists_call_of_step h
  rw [he] at hraised
  obtain ⟨c, rfl, hc⟩ := Option.bind_eq_some_iff.mp hraised.symm
  -- the event is about the target whose result was applied
  obtain ⟨id', up, now, t, rfl, hget, hid, hevent⟩ :=
    Registry.exists_of_raised?_eq_some hs.orderly.indexed hc
  obtain rfl : id = id' := by
    rw [← hid]
    exact habout.eq (TargetState.status_of_observe_eq_event hevent).1
  rw [hregistry, Option.elim_some] at hmem
  obtain ⟨t', hget', hid', htold, -⟩ := Registry.status_call hs.orderly.indexed hget hid hmem
  obtain ⟨-, hstatus⟩ := htold e hc habout.target_eq
  refine ⟨t', e, by rw [hregistry]; exact hget', hid', ?_, habout, hstatus⟩
  rw [hs.lastEvent?_story_step h, he]
  simp [habout.target_eq]

/-- **A move keeps agreement** as long as the target stays registered. -/
theorem Agrees.step (hagrees : s.Agrees id) (hs : s.Lawful)
    (h : s.step? ch window workers b = some s') (hmem : id ∈ s'.registry.identities) :
    s'.Agrees id := by
  obtain ⟨t, e, hget, hid, hlast, habout, hstatus⟩ := hagrees
  obtain ⟨c, hregistry, hraised⟩ := exists_call_of_step h
  have hstory := hs.lastEvent?_story_step h id.name
  cases c with
  | none =>
    refine ⟨t, e, by rw [hregistry]; exact hget, hid, ?_, habout, hstatus⟩
    rw [hstory, hraised]
    exact hlast
  | some c =>
    rw [hregistry] at hmem
    obtain ⟨t', hget', hid', htold, hkept⟩ :=
      Registry.status_call hs.orderly.indexed hget hid hmem
    have hget' : s'.registry.get? id.name = some t' := by rw [hregistry]; exact hget'
    cases hnews : (s.raised? b).filter fun e => e.target = id.name with
    | some e' =>
      obtain ⟨he', hname⟩ := Option.filter_eq_some_iff.mp hnews
      obtain ⟨habout', hstatus'⟩ := htold e' (hraised.symm.trans he') (by simpa using hname)
      exact ⟨t', e', hget', hid', by rw [hstory, hnews]; rfl, habout', hstatus'⟩
    | none =>
      have hsilent : ∀ e', s.registry.raised? c = some e' → e'.target ≠ id.name := by
        intro e' he' hname
        rw [hraised, Option.bind_some, he'] at hnews
        simp [hname] at hnews
      have hknown : t.status ≠ .unknown := by
        rw [hstatus]
        cases e.kind <;> decide
      exact ⟨t', e, hget', hid', by rw [hstory, hnews]; exact hlast, habout,
        (hkept hsilent hknown).trans hstatus⟩

variable {store : Store} {channel : σ} {before during : List StationMove}

/-- **The last event about a target agrees with the registry** from the first one on that is raised
since it was registered. -/
theorem SpokenSince.agrees (h : SpokenSince ch window workers store channel id before during)
    (hrun : run? ch window workers store channel (before ++ during) = some s) : s.Agrees id := by
  induction during using List.reverseRecOn generalizing s with
  | nil =>
    obtain ⟨p, b, after, s, e, hduring, -⟩ := h.raised
    simp at hduring
  | append_singleton during b ih =>
    rw [← List.append_assoc] at hrun
    obtain ⟨q, hq, hstep⟩ := run?_append_singleton.mp hrun
    have hmem : id ∈ s.registry.identities := by
      obtain ⟨s', hs', hmem⟩ := h.stays _ (List.prefix_refl _)
      rw [← List.append_assoc, hrun] at hs'
      exact Option.some.inj hs' ▸ hmem
    obtain ⟨p, b', after, q', e, hduring, hq', he, habout⟩ := h.raised
    rcases List.eq_nil_or_concat' after with rfl | ⟨after, b'', rfl⟩
    · -- the event is raised by the last move
      obtain ⟨rfl, hb⟩ := List.append_inj' hduring rfl
      obtain rfl : b = b' := List.singleton_inj.mp hb
      obtain rfl : q = q' := Option.some.inj (hq.symm.trans hq')
      exact agrees_of_raised (lawful_run hq) hstep he habout hmem
    · -- it has been raised before
      rw [← List.cons_append, ← List.append_assoc] at hduring
      obtain ⟨rfl, -⟩ := List.append_inj' hduring rfl
      have hearlier : SpokenSince ch window workers store channel id before (p ++ b' :: after) :=
        ⟨fun p' hp' => h.stays p' (hp'.trans (List.prefix_append _ _)),
          p, b', after, q', e, rfl, hq', he, habout⟩
      exact (ih hearlier hq).step (lawful_run hq) hstep hmem

/-- **The last word about a target tells its status**: between two rounds, for every registered
target about which an event has been raised since it was registered with its present address and
port, the last call about it is a message about an outage if the target is down, and a message or an
edit about a recovery if it is up. -/
theorem lastWord_run {t : TargetState}
    (hrun : run? ch window workers store channel (before ++ during) = some s)
    (hfinished : s.round.stage = .finished) (ht : t ∈ s.registry.targets)
    (hspoken : SpokenSince ch window workers store channel t.identity before during) :
    ∃ n, LastWord s.desk.notices t n := by
  have hs := lawful_run hrun
  obtain ⟨t', e, hget, -, hlast, habout, hstatus⟩ := hspoken.agrees hrun
  obtain rfl : t = t' := by
    rw [Registry.get?_of_mem hs.orderly.indexed ht] at hget
    exact Option.some.inj hget
  have hstory : s.story = s.desk.events := by
    rw [story, Round.untold, if_pos hfinished, List.append_nil]
  rw [hstory] at hlast
  obtain ⟨n, hn, hcovered, htells⟩ := hs.informed _ _ hlast
  -- a call that tells the event tells events of its kind only
  have hkind : ∀ kind, n.Tells kind ↔ kind = e.kind :=
    fun kind => ⟨fun h => (h.kind_eq hcovered).symm, fun h => h ▸ htells⟩
  refine ⟨n, hn, ⟨e, hcovered, habout⟩, ?_, ?_, ?_⟩
  · rw [hkind, hstatus]
    cases e.kind <;> simp [AlertKind.status]
  · rw [hkind, hstatus]
    cases e.kind <;> simp [AlertKind.status]
  · rw [hstatus]
    cases e.kind <;> simp [AlertKind.status]

end

/-- A target is up in the first round and down in the second, while another one is moved to another
address before its result comes in. In the third round the first one is back, the probe of the other
one dies, and nothing can be recorded. The message about the outage is edited. -/
theorem lastWord_run_edited :
    let run := run? Script.channel (.ofSeconds 30) 2 {} {}
    let id : Identity := ⟨"web", "a", 80⟩
    let replaced (address : String) : StationMove :=
      .within (.replaced [⟨"web", "a", 80, true⟩, ⟨"db", address, 5432, true⟩])
    let launched : List StationMove :=
      [.within (.listed false), .within .adopted, .within .read, .within .launched,
       .within .launched]
    let handed : List StationMove :=
      [.within (.collected 0), .within (.collected 1), .within .handed]
    let during : List StationMove :=
      launched ++ [.within (.died 0), .within (.returned 1 true (.atMillis 0)),
        .within (.recorded 1 true)] ++ handed ++
      .begun :: launched ++ [replaced "b", .within (.returned 1 false (.atMillis 5000)),
        .within (.returned 0 false (.atMillis 5000)), .within (.recorded 1 true)] ++ handed ++
      .begun :: launched ++ [.within (.returned 1 true (.atMillis 10000)), .within (.died 0),
        .within (.recorded 1 false)] ++ handed
    let web : TargetState := ⟨id, .up, some (.atMillis 10000), some (.atMillis 10000)⟩
    ∃ s, run ([replaced "a"] ++ during) = some s ∧ s.round.stage = .finished ∧
      s.registry.get? "web" = some web ∧
      ((lastNotice? s.desk.notices "web").map fun n => n.call.isEdit) = some true ∧
      SpokenSince Script.channel (.ofSeconds 30) 2 {} {} id [replaced "a"] during ∧
      ∃ n, LastWord s.desk.notices web n := by
  intro run id replaced launched handed during web
  have hstays : ∀ p ∈ during.inits,
      ((run ([replaced "a"] ++ p)).any fun s => decide (id ∈ s.registry.identities)) = true := by
    decide +kernel
  have hraised : ((run ([replaced "a"] ++ during.take 18)).bind fun s =>
      s.raised? (.within (.returned 1 false (.atMillis 5000)))) =
      some ⟨.down, "web", "a", 80, .stateChange, .atMillis 5000⟩ := by decide +kernel
  have hspoken : SpokenSince Script.channel (.ofSeconds 30) 2 {} {} id [replaced "a"] during := by
    refine ⟨fun p hp => ?_, ?_⟩
    · obtain ⟨s, hs, hmem⟩ := (Option.any_eq_true _ _).mp
        (hstays p ((List.mem_inits p during).mpr hp))
      exact ⟨s, hs, of_decide_eq_true hmem⟩
    · obtain ⟨s, hs, he⟩ := Option.bind_eq_some_iff.mp hraised
      exact ⟨during.take 18, _, during.drop 19, s, _, rfl, hs, he, rfl, rfl, rfl⟩
  have hrun : (run ([replaced "a"] ++ during)).map (fun s => (decide (s.round.stage = .finished),
      s.registry.get? "web", (lastNotice? s.desk.notices "web").map fun n => n.call.isEdit)) =
      some (true, some web, some true) := by decide +kernel
  obtain ⟨s, hs, heq⟩ := Option.map_eq_some_iff.mp hrun
  obtain ⟨hfinished, hrest⟩ := Prod.mk.inj heq
  obtain ⟨hget, hedit⟩ := Prod.mk.inj hrest
  have hfinished := of_decide_eq_true hfinished
  have hmem := ((Registry.get?_eq_some_iff (lawful_run hs).orderly.indexed).mp hget).1
  exact ⟨s, hs, hfinished, hget, hedit, hspoken, lastWord_run hs hfinished hmem hspoken⟩

end Station

end Uptime
