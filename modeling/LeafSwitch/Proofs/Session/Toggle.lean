import LeafSwitch.Proofs.Block.Port
import LeafSwitch.Proofs.Seed.Names

/-!
# Ports switched by a line or by a block

A port is taken out of service or put into service by a line of the operator, which is cut into
words and commits at once, or by a block of two lines, which is read, staged and committed as a
whole. Both find the same port for every reference that is one word, and they leave the same device
apart from the wording of the log entry.
-/

namespace LeafSwitch

/-- What a line and a block can both ask for. -/
inductive Toggle where
  /-- Take a port out of service. -/
  | off
  /-- Put a port into service. -/
  | on
  deriving DecidableEq, Repr

namespace Toggle

/-- The words that ask for it. -/
def words : Toggle → String
  | off => "shutdown"
  | on => "no shutdown"

/-- The line that asks for it. -/
def line (o : Toggle) (ref : String) : String := o.words ++ " " ++ ref

/-- The block that asks for it. -/
def block (o : Toggle) (ref : String) : String := "interface " ++ ref ++ "\n" ++ o.words

/-- What the second line of the block asks for. -/
def action : Toggle → Action
  | off => .shutdown
  | on => .noShutdown

/-- The state that the port is put into. -/
def status : Toggle → Status
  | off => .adminDown
  | on => .up

/-- How grave the log takes it. -/
def severity : Toggle → Severity
  | off => .warning
  | on => .info

end Toggle

/-- A device has become another one by a toggle: the port that the text refers to is in the state,
and the log has one entry more; if there is no such port, the device is as before. -/
def Device.Toggled (d : Device) (o : Toggle) (ref : String) (e : Device) : Prop :=
  match d.find? (some ref) with
  | none => e = d
  | some i => ∃ entry : LogEntry, entry.notice.severity = o.severity ∧
      e = { d.withStatus i.id o.status with logs := d.logs ++ [entry] }

namespace Device.Toggled

variable {d e e' : Device} {o : Toggle} {ref : String}

/-- The device is as before exactly where there is no such port. -/
theorem eq_self_iff (h : d.Toggled o ref e) : e = d ↔ d.find? (some ref) = none := by
  rw [Toggled] at h
  cases hfind : d.find? (some ref) with
  | none =>
    rw [hfind] at h
    exact iff_of_true h rfl
  | some i =>
    rw [hfind] at h
    obtain ⟨entry, _, rfl⟩ := h
    exact iff_of_false (Device.ne_of_logs rfl) (Option.some_ne_none i)

/-- A toggle decides the device but for the log, and how grave the entry is, if there is one. -/
theorem agree (h : d.Toggled o ref e) (h' : d.Toggled o ref e') :
    e.hostname = e'.hostname ∧ e.interfaces = e'.interfaces ∧ e.vlans = e'.vlans ∧
      ∃ said told : List LogEntry, e.logs = d.logs ++ said ∧ e'.logs = d.logs ++ told ∧
        said.length = told.length ∧ said.length ≤ 1 ∧
        said.map (·.notice.severity) = told.map (·.notice.severity) := by
  rw [Toggled] at h h'
  cases hfind : d.find? (some ref) with
  | none =>
    rw [hfind] at h h'
    obtain rfl : e = d := h
    obtain rfl : e' = e := h'
    refine ⟨rfl, rfl, rfl, [], [], ?_, ?_, rfl, Nat.zero_le 1, rfl⟩ <;> rw [List.append_nil]
  | some i =>
    rw [hfind] at h h'
    obtain ⟨entry, hentry, rfl⟩ := h
    obtain ⟨entry', hentry', rfl⟩ := h'
    refine ⟨rfl, rfl, rfl, [entry], [entry'], rfl, rfl, rfl, Nat.le_refl 1, ?_⟩
    rw [List.map_singleton, List.map_singleton, hentry, hentry']

end Device.Toggled

namespace Toggle

variable {o : Toggle} {ref : String}

/-! ### The line -/

/-- The line puts what its reference refers to into the state. -/
theorem ofLine_line (href : Text.IsWord ref) :
    Command.ofLine (o.line ref) = .setStatus (some ref) o.status o.severity := by
  have hcommand : Command.ofLine (o.line ref) =
      .setStatus (Text.wordsOf ref).head? o.status o.severity := by
    cases o with
    | off => exact Command.ofLine_downLine ref
    | on => exact Command.ofLine_upLine ref
  rw [hcommand, href.wordsOf_eq]
  rfl

/-- The line toggles the port. -/
theorem interpret_line (sw : Switch) (hd : sw.device.WellFormed) (o : Toggle)
    (href : Text.IsWord ref) :
    sw.device.Toggled o ref (sw.interpret (o.line ref)).2.device := by
  have hstatus := (Switch.interpret_setStatus hd (ofLine_line (o := o) href)).2
  rw [Device.Toggled]
  cases hfind : sw.device.find? (some ref) with
  | none =>
    rw [hfind] at hstatus
    exact hstatus
  | some i =>
    rw [hfind] at hstatus
    obtain ⟨entry, hnotice, hdevice⟩ := hstatus
    exact ⟨entry, by rw [hnotice], hdevice⟩

/-! ### The block -/

/-- The lines of the block are one that turns to the port and one that asks for the toggle. -/
theorem directivesOf_block (o : Toggle) (href : Text.IsWord ref) :
    directivesOf (o.block ref) =
      .ok [⟨.enter ref, "interface " ++ ref, 1⟩, ⟨o.action, o.words, 2⟩] := by
  have hwords : directivesOf o.words = .ok [⟨o.action, o.words, 1⟩] := by
    cases o <;> decide
  exact directivesOf_portBlock href hwords

/-- The block touches the port that it turns to, if there is one. -/
theorem touches_block (d : Device) (o : Toggle) (ref line line' : String) (n m : Int) :
    touches d [⟨.enter ref, line, n⟩, ⟨o.action, line', m⟩] =
      (d.find? (some ref)).toList.map fun i => (i.id, o.action) := by
  have hcontextual : o.action.isContextual = true := by
    cases o <;> rfl
  exact touches_portBlock d hcontextual ref line line' n m

/-- What is touched by a toggle alone is in the state, and has its fields otherwise. -/
theorem settled_toggle (o : Toggle) (id : String) (i : Interface) :
    i.settled (actionsOn i.id [(id, o.action)]) =
      if i.id = id then { i with status := o.status } else i := by
  rw [i.settled_actionsOn_singleton]
  cases o <;> rfl

/-- What a block says about a toggle is as grave as what a line says. -/
theorem exists_notice (o : Toggle) (name : String) :
    ∃ notice : Notice, o.action.notice? name = some notice ∧ notice.severity = o.severity := by
  cases o <;> exact ⟨_, rfl, rfl⟩

/-- A block that touches a single port, and only toggles it, leaves the port in the state and one
entry in the log. -/
theorem exists_entry_of_applies {sw after : Switch} {xs : List Directive} {t : Staging} {r : Report}
    (h : sw.Applies xs t r after) (hd : sw.device.WellFormed) {i : Interface}
    (hi : i ∈ sw.device.interfaces) (htouches : touches sw.device xs = [(i.id, o.action)]) :
    ∃ entry : LogEntry, entry.notice.severity = o.severity ∧
      after.device =
        { sw.device.withStatus i.id o.status with logs := sw.device.logs ++ [entry] } := by
  have hinterfaces : after.device.interfaces =
      (sw.device.withStatus i.id o.status).interfaces := by
    rw [h.interfaces_eq_touches, htouches]
    exact List.map_congr_left fun j _ => settled_toggle o i.id j
  have hvlans : after.device.vlans = sw.device.vlans := by
    refine (h.wellFormed hd).vlans_ascending.eq_of_mem_iff hd.vlans_ascending fun v => ?_
    rw [h.mem_vlans_iff_touches hd, htouches]
    refine or_iff_left ?_
    rintro ⟨n, id, hmem, -⟩
    cases o <;> simp [action] at hmem
  obtain ⟨notice, hnotice, hseverity⟩ := o.exists_notice i.name
  have hget : sw.device.get? i.id = some i := hd.get?_eq_some_iff.mpr ⟨hi, rfl⟩
  have hsaid : Staging.noticesOn sw.device [(i.id, o.action)] = [notice] := by
    simp only [Staging.noticesOn, List.filterMap_cons, hget, Option.bind_some, hnotice,
      List.filterMap_nil]
  obtain ⟨entries, hlogs, hnotices⟩ := h.exists_entries
  rw [← noticesOn_touches, htouches] at hnotices
  obtain ⟨entry, rfl, hentry⟩ := List.map_eq_singleton_iff.mp (hnotices.trans hsaid)
  refine ⟨entry, by rw [hentry, hseverity], ?_⟩
  exact Device.ext h.hostname_eq hinterfaces hvlans hlogs

/-- The block toggles the port. -/
theorem exists_applyBlock (sw : Switch) (hd : sw.device.WellFormed) (tracker : Option Tracker)
    (o : Toggle) (href : Text.IsWord ref) (source : String) (intent : Option String) :
    ∃ r after, sw.applyBlock tracker ⟨o.block ref, source, intent⟩ = .ok (r, after) ∧
      sw.device.Toggled o ref after.device := by
  obtain ⟨block, _, r, after, hblock, happly, h⟩ :=
    Switch.exists_applyBlock hd tracker ⟨o.block ref, source, intent⟩
  refine ⟨r, after, happly, ?_⟩
  rw [directivesOf_block o href] at hblock
  obtain rfl := Except.ok.inj hblock
  have htouches := touches_block sw.device o ref ("interface " ++ ref) o.words 1 2
  rw [Device.Toggled]
  cases hfind : sw.device.find? (some ref) with
  | none =>
    rw [hfind] at htouches
    refine h.device_of_noChange ?_
    rw [Report.noChange, h.applied_eq, htouches]
    rfl
  | some i =>
    rw [hfind] at htouches
    exact exists_entry_of_applies h hd (Device.mem_of_find? hfind) htouches

/-! ### Both ways -/

/-- For every reference that is one word, the line and the block leave the same name, interfaces and
VLANs, wherever they are carried out, and put the same number of entries into the log, one at most
and equally grave. Either of them leaves the device as it is exactly where there is no such port. -/
theorem line_agrees_block {d : Device} (hd : d.WellFormed) (o : Toggle) {ref : String}
    (hne : ref ≠ "") (href : ∀ c ∈ ref.toList, Text.isBlank c = false) (site site' : Site)
    (tracker : Option Tracker) (source : String) (intent : Option String) :
    ∃ byLine r byBlock, byLine = ((Switch.mk d site).interpret (o.line ref)).2 ∧
      (Switch.mk d site').applyBlock tracker ⟨o.block ref, source, intent⟩ = .ok (r, byBlock) ∧
      byLine.device.hostname = byBlock.device.hostname ∧
      byLine.device.interfaces = byBlock.device.interfaces ∧
      byLine.device.vlans = byBlock.device.vlans ∧
      (∃ said told : List LogEntry, byLine.device.logs = d.logs ++ said ∧
        byBlock.device.logs = d.logs ++ told ∧ said.length = told.length ∧ said.length ≤ 1 ∧
        said.map (·.notice.severity) = told.map (·.notice.severity)) ∧
      (byLine.device = d ↔ d.find? (some ref) = none) ∧
      (byBlock.device = d ↔ d.find? (some ref) = none) := by
  have hword : Text.IsWord ref := ⟨hne, href⟩
  have hline : d.Toggled o ref ((Switch.mk d site).interpret (o.line ref)).2.device :=
    interpret_line ⟨d, site⟩ hd o hword
  obtain ⟨r, after, happly, hblock⟩ :=
    exists_applyBlock ⟨d, site'⟩ hd tracker o hword source intent
  have hblock' : d.Toggled o ref after.device := hblock
  obtain ⟨hhostname, hinterfaces, hvlans, hlogs⟩ := hline.agree hblock'
  exact ⟨_, r, after, rfl, happly, hhostname, hinterfaces, hvlans, hlogs, hline.eq_self_iff,
    hblock'.eq_self_iff⟩

/-- A name in other letters refers to the second port, which is put into service either way. -/
theorem line_agrees_block_twoPorts :
    ∃ byLine r byBlock,
      byLine = ((Switch.mk Device.twoPorts Site.quiet).interpret "no shutdown ETHERNET2").2 ∧
      (Switch.mk Device.twoPorts Site.quiet).applyBlock none
        ⟨"interface ETHERNET2\nno shutdown", "cli", none⟩ = .ok (r, byBlock) ∧
      byLine.device.interfaces = byBlock.device.interfaces ∧
      byLine.device.vlans = byBlock.device.vlans ∧
      byLine.device ≠ Device.twoPorts ∧ byBlock.device ≠ Device.twoPorts := by
  have hd : Device.twoPorts.WellFormed := by decide
  have hne : "ETHERNET2" ≠ "" := by decide
  have hblank : ∀ c ∈ "ETHERNET2".toList, Text.isBlank c = false := by
    have hall : "ETHERNET2".toList.all (fun c => !Text.isBlank c) = true := by decide
    intro c hc
    rw [← Bool.not_eq_true']
    exact List.all_eq_true.mp hall c hc
  have hfind : Device.twoPorts.find? (some "ETHERNET2") ≠ none := by decide +kernel
  obtain ⟨byLine, r, byBlock, hline, hblock, _, hinterfaces, hvlans, _, hkept, hkept'⟩ :=
    line_agrees_block hd .on hne hblank Site.quiet Site.quiet none "cli" none
  exact ⟨byLine, r, byBlock, hline, hblock, hinterfaces, hvlans, mt hkept.mp hfind,
    mt hkept'.mp hfind⟩

end Toggle

end LeafSwitch
