import LeafSwitch.Proofs.Seed.Reading
import LeafSwitch.Proofs.Session.Ports

/-!
# The VLANs of seeded devices

A device that a seed has started keeps its VLANs in order: the VLAN of each interface is zero or a
VLAN of the device. The only exceptions are negative numbers that the seed itself gives to
interfaces; they are no VLANs of the device, and stay until a block puts the interface into a VLAN.
-/

namespace LeafSwitch

/-- A seed that started a device gives it. -/
theorem Site.gives_of_bootSeed {s : Site} {data : List (Value × Value)} {sw : Switch}
    (h : s.bootSeed data = .ok sw) : Seed.Gives s.nesting.shown data sw.device := by
  have hreads := s.reads_bootSeed data
  rw [h] at hreads
  exact hreads

/-- A negative VLAN of a device that has been started is given by the seed. -/
theorem Seed.Gives.exists_of_vlan_neg {room : Nat} {data : List (Value × Value)} {d : Device}
    (h : Seed.Gives room data d) {i : Interface} (hi : i ∈ d.interfaces) (hneg : i.vlan < 0) :
    ∃ raw ∈ Seed.described data,
      (∃ v, Value.entry? (Seed.fieldsOf raw) "id" = some v ∧ v.text room = .ok i.id) ∧
      ∃ v, Value.entry? (Seed.fieldsOf raw) "vlan" = some v ∧ v.toWhole = .ok i.vlan := by
  rcases h.interfaces with ⟨_, hdefault⟩ | hall
  · have hpos : ∀ j ∈ Seed.defaultInterfaces, 0 ≤ j.vlan := by decide
    rw [hdefault] at hi
    exact absurd hneg (Int.not_lt.mpr (hpos i hi))
  · obtain ⟨raw, hraw, hdescribes⟩ := (Seed.exists_of_mem_described hall).2 i hi
    obtain ⟨v, hentry, _, hid⟩ := hdescribes.id
    refine ⟨raw, hraw, ⟨v, hentry, hid⟩, ?_⟩
    have hvlan := hdescribes.vlan
    cases hfield : Value.entry? (Seed.fieldsOf raw) "vlan" with
    | none =>
      rw [hfield] at hvlan
      have hone : (1 : Int) = i.vlan := Except.ok.inj hvlan
      omega
    | some w =>
      rw [hfield] at hvlan
      exact ⟨w, rfl, hvlan⟩

/-- Whatever lines, blocks and samples follow on a device that a seed has started, lines without an
answer among them, the VLAN of each interface is zero or a VLAN of the device, unless it is a
negative number that the seed gives to this interface. -/
theorem Session.vlans_of_seeded_device {s : Site} {data : List (Value × Value)} {sw : Switch}
    (hboot : s.bootSeed data = .ok sw) (window : Telemetry.Window) {ops : List Operation}
    (hops : ∀ o ∈ ops, o.isServed = true) :
    ∃ last : Session, Session.run ⟨sw, window⟩ ops = .ok last ∧
      ∀ i ∈ last.switch.device.interfaces,
        (0 ≤ i.vlan ∧ (i.vlan ≠ 0 → i.vlan ∈ last.switch.device.vlans)) ∨
        (i.vlan < 0 ∧ i.vlan ∉ last.switch.device.vlans ∧ ∃ raw ∈ Seed.described data,
          (∃ v, Value.entry? (Seed.fieldsOf raw) "id" = some v ∧
            v.text s.nesting.shown = .ok i.id) ∧
          ∃ v, Value.entry? (Seed.fieldsOf raw) "vlan" = some v ∧ v.toWhole = .ok i.vlan) := by
  have hgives := Site.gives_of_bootSeed hboot
  obtain ⟨last, hrun, hwf, _⟩ := exists_run (s := ⟨sw, window⟩) hgives.wellFormed ops
  have hfollows : last.switch.device.Follows sw.device :=
    follows_of_run (s := ⟨sw, window⟩) hgives.wellFormed hops hrun
  refine ⟨last, hrun, fun i hi => ?_⟩
  by_cases hneg : i.vlan < 0
  · obtain ⟨j, hj, hij⟩ := hfollows.exists_mem hi
    have hsame : i.vlan = j.vlan := hij.vlan.resolve_right (Int.not_le.mpr hneg)
    have hnone : i.vlan ∉ last.switch.device.vlans := by
      intro hmem
      exact absurd hneg (Int.not_lt.mpr (Int.le_of_lt (hwf.vlans_pos _ hmem)))
    rw [hij.id, hsame]
    exact Or.inr ⟨hsame ▸ hneg, hsame ▸ hnone, hgives.exists_of_vlan_neg hj (hsame ▸ hneg)⟩
  · refine Or.inl ⟨Int.not_lt.mp hneg, fun hne => hwf.vlans_cover i hi ?_⟩
    omega

/-- A seed that gives a negative VLAN to a port, whose name is two words. -/
def Seed.careless : List (Value × Value) :=
  [(.str "hostname", .str "leaf1"), (.str "vlans", .list [.int 30]),
    (.str "interfaces", .list
      [.map [(.str "id", .str "et1"), (.str "name", .str "Ethernet1"), (.str "vlan", .int 10)],
        .map [(.str "id", .str "et2"), (.str "name", .str "Ethernet 2"),
          (.str "vlan", .int (-5))]])]

/-- The port with a name of two words. -/
def Device.ethernet2 : Interface := { Interface.named "et2" "Ethernet 2" with vlan := -5 }

/-- The switch that the careless seed starts. -/
def Switch.careless : Switch :=
  ⟨⟨"leaf1", [Device.ethernet1, Device.ethernet2], [10, 30],
      [⟨"000000000001", ⟨0⟩, ⟨.info, "System", "System initialization complete"⟩⟩]⟩,
    Site.quiet.advanced⟩

/-- The careless seed is taken. -/
theorem Site.bootSeed_careless : Site.quiet.bootSeed Seed.careless = .ok Switch.careless := rfl

/-- A negative VLAN from the seed stays through lines and samples. -/
theorem Session.vlans_of_seeded_device_careless :
    ∃ last : Session,
      Session.run ⟨Switch.careless, ⟨2, []⟩⟩ [.line "shutdown et2",
        .block none ⟨"interface et1\nswitchport access vlan 20", "cli", none⟩,
        .sample (.fresh [] [])] = .ok last ∧
      ∀ i ∈ last.switch.device.interfaces,
        (0 ≤ i.vlan ∧ (i.vlan ≠ 0 → i.vlan ∈ last.switch.device.vlans)) ∨
        (i.vlan < 0 ∧ i.vlan ∉ last.switch.device.vlans ∧ ∃ raw ∈ Seed.described Seed.careless,
          (∃ v, Value.entry? (Seed.fieldsOf raw) "id" = some v ∧
            v.text Site.quiet.nesting.shown = .ok i.id) ∧
          ∃ v, Value.entry? (Seed.fieldsOf raw) "vlan" = some v ∧ v.toWhole = .ok i.vlan) :=
  Session.vlans_of_seeded_device Site.bootSeed_careless ⟨2, []⟩ (by decide)

/-- A seed may start a device with an interface whose VLAN is negative and no VLAN of the device. -/
theorem Session.vlans_of_seeded_device_negative :
    ¬ ∀ (s : Site) (data : List (Value × Value)) (sw : Switch) (window : Telemetry.Window)
        (ops : List Operation) (last : Session), s.bootSeed data = .ok sw →
      (∀ o ∈ ops, o.isServed = true) → Session.run ⟨sw, window⟩ ops = .ok last →
      ∀ i ∈ last.switch.device.interfaces,
        0 ≤ i.vlan ∧ (i.vlan ≠ 0 → i.vlan ∈ last.switch.device.vlans) := by
  intro h
  have hlaw := h Site.quiet Seed.careless Switch.careless ⟨2, []⟩ []
    ⟨Switch.careless, ⟨2, []⟩⟩ Site.bootSeed_careless (fun o ho => absurd ho List.not_mem_nil) rfl
  have hpos := (hlaw Device.ethernet2 (by decide)).1
  exact absurd hpos (by decide)

end LeafSwitch
