import LeafSwitch.Block.Apply
import LeafSwitch.Proofs.Checked.Directive

/-!
# Applying blocks in checked steps

A card is applied to what a search for the interface in context finds, and the VLAN it carries is
asked for where it is stored and compared. Applying a block in checked steps agrees with applying
it, as long as the VLANs that are new on the device can be written out.
-/

namespace LeafSwitch

/-- The fault of a block that cannot be worked through. -/
def BlockError.fault : BlockError → Fault
  | .line .blank => .noItem 0
  | .noInterface _ => .noInterface

namespace Checked

/-- Pass over a line with a number, with a detail for the journal. -/
def passOver (s : Staging) (number : Int) (detail : String) : Staging :=
  { s with
    ignored := s.ignored + 1
    details := s.details ++ ["Line " ++ toString number ++ ": " ++ detail] }

/-- Apply a card to the interface that a search has found. -/
def touch (s : Staging) (found : Option Interface) (c : Card) : Except Fault Staging :=
  match c.kind with
  | .shutdown => do
    let i ← interface found
    return (s.put { i with status := .adminDown }).say .warning (i.name ++ " disabled via AI Agent")
  | .noShutdown => do
    let i ← interface found
    return (s.put { i with status := .up }).say .info (i.name ++ " enabled via AI Agent")
  | .describe => do
    let i ← interface found
    return s.put { i with description := c.argument.getD "" }
  | .accessVlan => do
    let i ← interface found
    let v ← vlan c.vlan
    let stored := s.put { i with vlan := v }
    if v > 0 && !stored.vlans.contains v.toNat then
      return { stored with vlans := stored.vlans ++ [v.toNat] }
    else return stored
  | _ => .ok s

/-- Work through one card, where `context` is the id of the interface the block has turned to. -/
def step (d : Device) (context : Option String) (s : Staging) (c : Card) :
    Except Fault (Option String × Staging) :=
  match c.kind with
  | .enter =>
    match d.find? c.argument with
    | some i => .ok (some i.id, s)
    | none =>
      .ok (context,
        passOver s c.number
        ("unknown interface " ++ Text.quotedOption c.argument ++ ", context unchanged"))
  | .exit => .ok (none, s)
  | .comment => .ok (context, s)
  | .ignored => .ok (context, passOver s c.number ("ignoring " ++ Text.quoted c.line))
  | .shutdown | .noShutdown | .describe | .accessVlan =>
    match context with
    | none =>
      .ok (context, passOver s c.number (Text.quoted c.line ++ " outside interface context"))
    | some id => do
      let s ← touch s (s.current? d id) c
      return (context, { s with applied := s.applied + 1 })

/-- Work through cards in order. -/
def run (d : Device) (context : Option String) (s : Staging) : List Card → Except Fault Staging
  | [] => .ok s
  | c :: rest => do
    let (context, s) ← step d context s c
    run d context s rest

/-- The names that interfaces with given ids have on a device. -/
def namesOf (d : Device) : List String → Except Fault (List String)
  | [] => .ok []
  | id :: rest => do
    let i ← interface (d.get? id)
    let names ← namesOf d rest
    return i.name :: names

/-- A report in one line. -/
def summary (r : Report) : Except Fault String :=
  if r.noChange then .ok "No changes applied"
  else do
    let created ← numbers r.created
    return Text.join "; "
      ([toString r.applied ++ " directive(s) applied"] ++
        (if r.changed.isEmpty then [] else ["interfaces: " ++ Text.join ", " r.changed]) ++
        if r.created.isEmpty then [] else ["new VLANs: " ++ Text.join ", " created])

/-- File an applied block, if there is someone to file it; its VLANs are written out. -/
def track (sw : Switch) (tracker : Option Tracker) (s : Submission) (r : Report) :
    Except Fault Switch :=
  match tracker with
  | none => .ok sw
  | some t => do
    let _ ← numbers r.created
    return { sw with site := (sw.site.file t.hostname (s.filing sw.device.hostname r)).2 }

/-- Work through cards, commit what is staged, and report on it. -/
def applyCards (sw : Switch) (cards : List Card) : Except Fault (Report × Switch) := do
  let staged ← run sw.device none .none cards
  let site := sw.site.reportAll (staged.details.map (Site.Record.debug Switch.blockChannel))
  let after := { sw with site }.perform staged.change
  let changed ← namesOf after.device (staged.interfaces.map (·.id))
  return ({ lines := cards.length
            applied := staged.applied
            ignored := staged.ignored
            changed
            created := staged.created sw.device }, after)

/-- Apply a block, where no block is an empty one. -/
def applyBlock (sw : Switch) (tracker : Option Tracker) (block : Option String) (source : String)
    (intent : Option String) : Except Fault (Report × Switch) := do
  let (start, site) := sw.site.tick
  let cards ← readBlock block
  let (r, after) ← applyCards { sw with site } cards
  let site := after.site.finish "config_apply" sw.device.hostname start none []
  let text ← summary r
  let told := { after with site }.report
    (.info Switch.blockChannel ("Applied config block from " ++ source ++ ": " ++ text))
  let filed ← track told tracker ⟨block.getD "", source, intent⟩ r
  return (r, filed)

/-- A VLAN is noted where it is one and not noted yet. -/
theorem join_eq (s : Staging) (n : Nat) :
    (if (Int.ofNat n > 0 && !s.vlans.contains (Int.ofNat n).toNat) = true
      then { s with vlans := s.vlans ++ [(Int.ofNat n).toNat] } else s) = s.join n := by
  rw [Staging.join]
  by_cases hn : n = 0
  · simp [hn]
  · by_cases hmem : n ∈ s.vlans
    · simp [hmem]
    · simp [hn, hmem, Nat.pos_of_ne_zero hn]

/-- Where an interface is found, what acts on it is applied to it. -/
theorem touch_card {x : Directive} (hx : x.action.isContextual = true) (s : Staging)
    (i : Interface) : touch s (some i) x.card = .ok (s.touch i x.action) := by
  obtain ⟨action, line, number⟩ := x
  cases action with
  | shutdown | noShutdown | describe => rfl
  | accessVlan n =>
    rw [Staging.touch, ← join_eq]
    change (if _ then Except.ok _ else Except.ok _) = _
    rw [← apply_ite Except.ok]
    rfl
  | enter | exit | comment | ignored => exact absurd hx Bool.false_ne_true

/-- Where no interface is found, nothing that acts on one is applied. -/
theorem touch_card_none {x : Directive} (hx : x.action.isContextual = true) (s : Staging) :
    touch s none x.card = .error .noInterface := by
  obtain ⟨action, line, number⟩ := x
  cases action with
  | shutdown | noShutdown | describe | accessVlan => rfl
  | enter | exit | comment | ignored => exact absurd hx Bool.false_ne_true

/-- A card that acts on interfaces is applied to the one in context. -/
theorem step_card_some {x : Directive} (hx : x.action.isContextual = true) (d : Device)
    (id : String) (s : Staging) :
    step d (some id) s x.card = do
      let s ← touch s (s.current? d id) x.card
      return (some id, { s with applied := s.applied + 1 }) := by
  obtain ⟨action, line, number⟩ := x
  cases action with
  | shutdown | noShutdown | describe | accessVlan => rfl
  | enter | exit | comment | ignored => exact absurd hx Bool.false_ne_true

/-- A card is worked through like its directive, and fails where that fails. -/
theorem step_card (d : Device) (context : Option String) (s : Staging) (x : Directive) :
    step d context s x.card = (Staging.step d context s x).mapError BlockError.fault := by
  by_cases hx : x.action.isContextual = true
  · cases context with
    | none =>
      obtain ⟨action, line, number⟩ := x
      cases action with
      | shutdown | noShutdown | describe | accessVlan => rfl
      | enter | exit | comment | ignored => exact absurd hx Bool.false_ne_true
    | some id =>
      rw [step_card_some hx, Staging.step_of_contextual hx]
      dsimp only
      cases s.current? d id with
      | none =>
        rw [touch_card_none hx]
        rfl
      | some i =>
        rw [touch_card hx]
        rfl
  · obtain ⟨action, line, number⟩ := x
    cases action with
    | enter ref =>
      unfold step Staging.step
      dsimp only [Directive.card, Action.kind, Action.argument?]
      cases d.find? (some ref) <;> rfl
    | exit | comment | ignored => rfl
    | shutdown | noShutdown | describe | accessVlan => exact absurd rfl hx

/-- Cards are worked through like their directives, and fail where those fail. -/
theorem run_cards (d : Device) (context : Option String) (s : Staging) (xs : List Directive) :
    run d context s (xs.map Directive.card) =
      (Staging.run d context s xs).mapError BlockError.fault := by
  induction xs generalizing context s with
  | nil => rfl
  | cons x rest ih =>
    rw [List.map_cons, run, Staging.run, step_card]
    cases Staging.step d context s x with
    | error e => rfl
    | ok after => exact ih after.1 after.2

/-- Names are found where they are found without checks. -/
theorem namesOf_eq (d : Device) (ids : List String) :
    namesOf d ids = (Staging.namesOf d ids).mapError BlockError.fault := by
  induction ids with
  | nil => rfl
  | cons id rest ih =>
    rw [namesOf, Staging.namesOf, ih]
    cases d.get? id with
    | none => rfl
    | some i => cases Staging.namesOf d rest <;> rfl

/-- Cards are applied like their directives, and fail where those fail. -/
theorem applyCards_eq (sw : Switch) (xs : List Directive) :
    applyCards sw (xs.map Directive.card) = (sw.applyStaged xs).mapError BlockError.fault := by
  rw [applyCards, Switch.applyStaged, run_cards, List.length_map]
  cases Staging.run sw.device none .none xs with
  | error e => rfl
  | ok staged =>
    let site := sw.site.reportAll (staged.details.map (Site.Record.debug Switch.blockChannel))
    let after := { sw with site }.perform staged.change
    change (namesOf after.device (staged.interfaces.map (·.id)) >>= _) =
      Except.mapError _ (Staging.namesOf after.device (staged.interfaces.map (·.id)) >>= _)
    rw [namesOf_eq]
    cases Staging.namesOf after.device (staged.interfaces.map (·.id)) <;> rfl

/-- A report whose VLANs can be written out is put into its line. -/
theorem summary_eq {r : Report} (hr : ∀ v ∈ r.created, v.natAbs < Value.shownLimit) :
    summary r = .ok r.summary := by
  rw [summary, Report.summary, numbers_eq, if_pos hr]
  split_ifs <;> rfl

/-- A report whose VLANs can be written out is filed. -/
theorem track_eq {r : Report} (hr : ∀ v ∈ r.created, v.natAbs < Value.shownLimit) (sw : Switch)
    (tracker : Option Tracker) (s : Submission) :
    track sw tracker s r = .ok (sw.track tracker s r) := by
  cases tracker with
  | none => rfl
  | some t =>
    rw [track, numbers_eq, if_pos hr]
    rfl

/-- A block that is applied is applied in checked steps, with the same outcome, where the VLANs that
are new can be written out. -/
theorem applyBlock_eq {sw after : Switch} {tracker : Option Tracker} {block : Option String}
    {source : String} {intent : Option String} {r : Report}
    (h : sw.applyBlock tracker ⟨block.getD "", source, intent⟩ = .ok (r, after))
    (hr : ∀ v ∈ r.created, v.natAbs < Value.shownLimit) :
    applyBlock sw tracker block source intent = .ok (r, after) := by
  obtain ⟨xs, hxs, hcards, _⟩ := exists_readBlock block
  obtain ⟨_, done, hread, hstaged, rfl⟩ := Switch.exists_of_applyBlock h
  obtain rfl := Except.ok.inj (hxs.symm.trans hread)
  let started : Switch := ⟨sw.device, sw.site.tick.2⟩
  have happlied : applyCards started (xs.map Directive.card) = .ok (r, done) := by
    rw [applyCards_eq]
    exact mapError_eq_ok_iff.mpr hstaged
  rw [applyBlock, hcards]
  change (applyCards started (xs.map Directive.card) >>= _) = _
  rw [happlied]
  change (summary r >>= _) = _
  rw [summary_eq hr]
  change (track _ tracker _ r >>= _) = _
  rw [track_eq hr]
  rfl

end Checked

end LeafSwitch
