import LeafSwitch.Proofs.Data.Shown
import LeafSwitch.Proofs.Device.WellFormed
import LeafSwitch.Proofs.Site.Stamps
import LeafSwitch.Seed
import Mathlib.Data.List.Forall2

/-!
# Reading seeds

A seed is read part by part. Whatever it holds, a part is read, or it is refused for a fault, or
reading it breaks off at an infinity that stands where a number is wanted, or at something that is
not shown. So a seed either starts a device or is refused, as long as it holds neither.
-/

namespace LeafSwitch

namespace Seed

/-- The fields that a value gives to an interface. -/
def fieldsOf : Value → List (Value × Value)
  | .map fields => fields
  | _ => []

/-- The fields of an interface that are taken for numbers. -/
def numbersIn (fields : List (Value × Value)) : List Value :=
  ["vlan", "mtu", "speed"].filterMap (Value.entry? fields)

/-- The fields of an interface that are taken for texts. -/
def textsIn (fields : List (Value × Value)) : List Value :=
  ["id", "name", "status", "description"].filterMap (Value.entry? fields)

/-- The values in a seed that are to describe interfaces. -/
def described (data : List (Value × Value)) : List Value :=
  match (Value.entry? data "interfaces").getD .null with
  | .list raw => raw
  | _ => []

/-- The values in a seed that are to be VLANs. -/
def vlanItems (data : List (Value × Value)) : List Value :=
  ((Value.entry? data "vlans").bind itemsOf?).getD []

/-- The values in a seed that are taken for numbers. -/
def numbers (data : List (Value × Value)) : List Value :=
  vlanItems data ++ (described data).flatMap fun raw => numbersIn (fieldsOf raw)

/-- The values in a seed that are taken for texts, or told where they are at fault. -/
def texts (data : List (Value × Value)) : List Value :=
  (Value.entry? data "hostname").toList ++ (Value.entry? data "vlans").toList ++
    (described data).flatMap fun raw => textsIn (fieldsOf raw)

/-- An interface is as some fields describe it. -/
structure Describes (room : Nat) (fields : List (Value × Value)) (i : Interface) : Prop where
  /-- The id is there and counts as true. -/
  id : ∃ v, Value.entry? fields "id" = some v ∧ v.truthy = true ∧ v.text room = .ok i.id
  /-- The name is there and counts as true. -/
  name : ∃ v, Value.entry? fields "name" = some v ∧ v.truthy = true ∧ v.text room = .ok i.name
  /-- The state is given by its keyword, in any mix of case. -/
  status : ∃ word, ((Value.entry? fields "status").getD (.str "down")).text room = .ok word ∧
    Status.ofKeyword? (Text.lowered word) = some i.status
  /-- The VLAN is a number. -/
  vlan : ((Value.entry? fields "vlan").getD (.int 1)).toWhole = .ok i.vlan
  /-- The largest frame is a number. -/
  mtu : ((Value.entry? fields "mtu").getD (.int 1500)).toWhole = .ok i.mtu
  /-- The speed is a number. -/
  speed : ((Value.entry? fields "speed").getD (.int 1000)).toWhole = .ok i.speed

/-- What can come of reading a part of a seed: something with a property, a fault, or a failure for
which one of the values taken for numbers or for texts is to blame. -/
def Reads {α : Type} (room : Nat) (numbers texts : List Value) (p : α → Prop) :
    Except Error α → Prop
  | .ok a => p a
  | .error (.refused _) => True
  | .error .infinite => ∃ negative, Value.float (.infinite negative) ∈ numbers
  | .error (.unshown cause) => ∃ v ∈ texts, v.Exceeds room cause
  | .error (.number _) | .error (.file _) | .error (.path _) => False

section Reads

variable {α β : Type} {room : Nat} {ns ts : List Value} {p : α → Prop} {q : β → Prop}

/-- Reading goes on with what has been read. -/
theorem Reads.bind {x : Except Error α} {f : α → Except Error β} (hx : Reads room ns ts p x)
    (hf : ∀ a, p a → Reads room ns ts q (f a)) : Reads room ns ts q (x >>= f) := by
  cases x with
  | ok a => exact hf a hx
  | error e => cases e <;> exact hx

/-- Of what has been read less may be known. -/
theorem Reads.imp {x : Except Error α} {p' : α → Prop} (hx : Reads room ns ts p x)
    (hp : ∀ a, p a → p' a) : Reads room ns ts p' x := by
  cases x with
  | ok a => exact hp a hx
  | error e => cases e <;> exact hx

/-- A seed is refused for a fault that tells of a value, or else the value is not shown. -/
theorem reads_refuse {told : Except ShowError String}
    (htold : ∀ cause, told = .error cause → ∃ v ∈ ts, v.Exceeds room cause)
    (fault : String → Fault) : Reads room ns ts p (refuse told fault) := by
  cases told with
  | ok text => exact trivial
  | error cause => exact htold cause rfl

/-- A value is not taken for a number for being infinite only where it is an infinity. -/
theorem eq_infinite_of_toWhole {v : Value} (h : v.toWhole = .error .infinite) :
    ∃ negative, v = .float (.infinite negative) := by
  cases v with
  | float x =>
    cases x with
    | infinite negative => exact ⟨negative, rfl⟩
    | nan | finite => cases h
  | str s =>
    rw [Value.toWhole] at h
    cases hread : Number.readInteger s <;> rw [hread] at h <;> cases h
  | null | bool | int | list | map | other => cases h

/-- A field is read as a number. -/
theorem reads_whole {told : Except ShowError String} {fields : List (Value × Value)} {key : String}
    {absent : Int} (htold : ∀ cause, told = .error cause → ∃ v ∈ ts, v.Exceeds room cause)
    (hfield : ∀ v, Value.entry? fields key = some v → v ∈ ns) :
    Reads room ns ts (fun n => ((Value.entry? fields key).getD (.int absent)).toWhole = .ok n)
      (whole told fields key absent) := by
  rw [whole]
  split
  · rename_i n hn
    exact hn
  · rename_i hinfinite
    obtain ⟨negative, hv⟩ := eq_infinite_of_toWhole hinfinite
    cases hentry : Value.entry? fields key with
    | none =>
      rw [hentry] at hv
      cases hv
    | some v =>
      rw [hentry, Option.getD_some] at hv
      exact ⟨negative, hv ▸ hfield v hentry⟩
  · exact reads_refuse htold _

/-- A field is read as a text. -/
theorem reads_textOf {told : Except ShowError String}
    (htold : ∀ cause, told = .error cause → ∃ v ∈ ts, v.Exceeds room cause) {v : Value}
    (hv : v.text room = .error .tooDeep → v ∈ ts) :
    Reads room ns ts (fun text => v.text room = .ok text) (textOf room told v) := by
  rw [textOf]
  split
  · next text htext => exact htext
  · exact reads_refuse htold _
  · next hdeep => exact ⟨v, hv hdeep, Value.exceeds_of_text hdeep⟩

/-- A value is read as a state. -/
theorem reads_statusOf {told : Except ShowError String}
    (htold : ∀ cause, told = .error cause → ∃ v ∈ ts, v.Exceeds room cause) {given : Value}
    (hgiven : ∀ cause, given.text room = .error cause → given ∈ ts) :
    Reads room ns ts (fun status => ∃ word, given.text room = .ok word ∧
      Status.ofKeyword? (Text.lowered word) = some status) (statusOf room told given) := by
  rw [statusOf]
  cases hword : given.text room with
  | error cause =>
    have hexceeds : ∃ v ∈ ts, v.Exceeds room cause :=
      ⟨given, hgiven cause hword, Value.exceeds_of_text hword⟩
    cases cause with
    | tooDeep => exact hexceeds
    | tooLong =>
      cases told with
      | ok name => exact hexceeds
      | error e => exact htold e rfl
  | ok word =>
    have hbind : ((Except.ok word : Except ShowError String).toOption.bind fun text =>
        Status.ofKeyword? (Text.lowered text)) = Status.ofKeyword? (Text.lowered word) := rfl
    dsimp only
    rw [hbind]
    cases hstatus : Status.ofKeyword? (Text.lowered word) with
    | some status => exact ⟨word, rfl, hstatus⟩
    | none =>
      cases told with
      | ok name => exact trivial
      | error e => exact htold e rfl

/-- A field that counts as true is there. -/
theorem exists_entry_of_truthy {fields : List (Value × Value)} {key : String}
    (h : ((Value.entry? fields key).getD .null).truthy = true) :
    ∃ v, Value.entry? fields key = some v ∧ v.truthy = true := by
  cases hentry : Value.entry? fields key with
  | none =>
    rw [hentry] at h
    cases h
  | some v =>
    rw [hentry] at h
    exact ⟨v, rfl, h⟩

/-- An interface is read from its fields. -/
theorem reads_interfaceOf (index : Nat) {raw : Value} (hns : numbersIn (fieldsOf raw) ⊆ ns)
    (hts : textsIn (fieldsOf raw) ⊆ ts) :
    Reads room ns ts (Describes room (fieldsOf raw)) (interfaceOf room index raw) := by
  cases raw with
  | map fields =>
    have hnumber : ∀ key ∈ ["vlan", "mtu", "speed"], ∀ v, Value.entry? fields key = some v →
        v ∈ ns := fun key hkey v hv => hns (List.mem_filterMap.mpr ⟨key, hkey, hv⟩)
    have htext : ∀ key ∈ ["id", "name", "status", "description"], ∀ v,
        Value.entry? fields key = some v → v ∈ ts :=
      fun key hkey v hv => hts (List.mem_filterMap.mpr ⟨key, hkey, hv⟩)
    unfold interfaceOf
    dsimp only
    split
    · exact trivial
    rename_i htruthy
    simp only [Bool.or_eq_true, Bool.not_eq_true', not_or, Bool.not_eq_false] at htruthy
    obtain ⟨id, hid, hidTrue⟩ := exists_entry_of_truthy htruthy.1
    obtain ⟨name, hname, hnameTrue⟩ := exists_entry_of_truthy htruthy.2
    have htold : ∀ cause, name.text room = .error cause → ∃ v ∈ ts, v.Exceeds room cause :=
      fun cause h => ⟨name, htext "name" (by decide) name hname, Value.exceeds_of_text h⟩
    -- A field that is not given has a text instead, which is there.
    have hgiven : ∀ key ∈ ["id", "name", "status", "description"], ∀ absent cause,
        ((Value.entry? fields key).getD (.str absent)).text room = .error cause →
          (Value.entry? fields key).getD (.str absent) ∈ ts := by
      intro key hkey absent cause h
      cases hentry : Value.entry? fields key with
      | none =>
        rw [hentry] at h
        cases h
      | some v => exact htext key hkey v hentry
    simp only [hid, hname, Option.getD_some]
    refine (reads_statusOf htold (hgiven "status" (by decide) "down")).bind fun status hstatus => ?_
    refine (reads_textOf htold fun _ => htext "id" (by decide) id hid).bind fun idText hidText => ?_
    refine (reads_textOf htold fun _ => htext "name" (by decide) name hname).bind
      fun nameText hnameText => ?_
    refine (reads_whole htold (hnumber "vlan" (by decide))).bind fun vlan hvlan => ?_
    refine (reads_textOf htold (hgiven "description" (by decide) "" _)).bind fun description _ => ?_
    refine (reads_whole htold (hnumber "mtu" (by decide))).bind fun mtu hmtu => ?_
    refine (reads_whole htold (hnumber "speed" (by decide))).bind fun speed hspeed => ?_
    exact ⟨⟨id, hid, hidTrue, hidText⟩, ⟨name, hname, hnameTrue, hnameText⟩, hstatus, hvlan, hmtu,
      hspeed⟩
  | null | bool | int | float | str | list | other => exact trivial

/-- Interfaces are read one by one. -/
theorem reads_interfacesFrom (index : Nat) {raws : List Value}
    (hns : (raws.flatMap fun raw => numbersIn (fieldsOf raw)) ⊆ ns)
    (hts : (raws.flatMap fun raw => textsIn (fieldsOf raw)) ⊆ ts) :
    Reads room ns ts (List.Forall₂ (fun raw i => Describes room (fieldsOf raw) i) raws)
      (interfacesFrom room index raws) := by
  induction raws generalizing index with
  | nil => exact List.Forall₂.nil
  | cons raw rest ih =>
    rw [List.flatMap_cons, List.append_subset] at hns hts
    refine (reads_interfaceOf index hns.1 hts.1).bind fun i hi => ?_
    refine (ih (index + 1) hns.2 hts.2).bind fun more hmore => ?_
    exact List.Forall₂.cons hi hmore

/-- VLANs are read one by one. -/
theorem reads_vlansFrom {given : Except ShowError String}
    (hgiven : ∀ cause, given = .error cause → ∃ v ∈ ts, v.Exceeds room cause)
    {items : List Value} (hns : items ⊆ ns) :
    Reads room ns ts (fun read => ∀ v ∈ items, ∃ n ∈ read, v.toWhole = .ok n)
      (vlansFrom given items) := by
  induction items with
  | nil => exact fun v hv => absurd hv List.not_mem_nil
  | cons v rest ih =>
    obtain ⟨hv, hrest⟩ := List.cons_subset.mp hns
    rw [vlansFrom]
    split
    · rename_i n hn
      have hmap : (vlansFrom given rest).map (n :: ·) =
          vlansFrom given rest >>= fun read => .ok (n :: read) := by
        cases vlansFrom given rest <;> rfl
      rw [hmap]
      refine (ih hrest).bind fun read hread => ?_
      intro w hw
      rcases List.mem_cons.mp hw with rfl | hw
      · exact ⟨n, List.mem_cons_self, hn⟩
      · obtain ⟨m, hm, hwhole⟩ := hread w hw
        exact ⟨m, List.mem_cons_of_mem n hm, hwhole⟩
    · rename_i hinfinite
      obtain ⟨negative, rfl⟩ := eq_infinite_of_toWhole hinfinite
      exact ⟨negative, hv⟩
    · exact reads_refuse hgiven _

/-- The interfaces of a seed are read. -/
theorem reads_interfacesOf {data : List (Value × Value)}
    (hns : ((described data).flatMap fun raw => numbersIn (fieldsOf raw)) ⊆ ns)
    (hts : ((described data).flatMap fun raw => textsIn (fieldsOf raw)) ⊆ ts) :
    Reads room ns ts (fun is => described data = [] ∧ is = defaultInterfaces ∨
        List.Forall₂ (fun raw i => Describes room (fieldsOf raw) i) (described data) is)
      (interfacesOf room data) := by
  rw [described] at hns hts ⊢
  rw [interfacesOf]
  cases hgiven : (Value.entry? data "interfaces").getD .null with
  | null => exact Or.inl ⟨rfl, rfl⟩
  | list raws =>
    rw [hgiven] at hns hts
    exact (reads_interfacesFrom 0 hns hts).imp fun _ => Or.inr
  | bool | int | float | str | map | other => exact trivial

/-- The VLANs of a seed are read. -/
theorem reads_vlansOf {data : List (Value × Value)} (hns : vlanItems data ⊆ ns)
    (hts : (Value.entry? data "vlans").toList ⊆ ts) :
    Reads room ns ts (fun read => ∀ v ∈ vlanItems data, ∃ n ∈ read, v.toWhole = .ok n)
      (vlansOf room data) := by
  rw [vlanItems] at hns ⊢
  rw [vlansOf]
  cases hentry : Value.entry? data "vlans" with
  | none => exact fun v hv => absurd hv List.not_mem_nil
  | some given =>
    rw [hentry] at hns hts
    have hgiven : ∀ cause, given.shown room = .error cause → ∃ v ∈ ts, v.Exceeds room cause :=
      fun cause h => ⟨given, hts List.mem_cons_self, Value.exceeds_of_shown room given cause h⟩
    rw [Option.bind_some] at hns ⊢
    dsimp only
    cases hitems : itemsOf? given with
    | none => exact reads_refuse hgiven _
    | some items =>
      rw [hitems] at hns
      exact reads_vlansFrom hgiven hns

/-- The name in a seed is read. -/
theorem reads_hostnameOf {data : List (Value × Value)}
    (hts : (Value.entry? data "hostname").toList ⊆ ts) :
    Reads room ns ts
      (fun name => (Value.entry? data "hostname").getD (.str defaultHostname) = .str name)
      (hostnameOf room data) := by
  rw [hostnameOf]
  split
  · rename_i name hname
    split
    · refine reads_refuse (fun cause h => ?_) _
      cases hentry : Value.entry? data "hostname" with
      | none =>
        rw [hentry] at hname
        obtain rfl := Value.str.inj hname
        rename_i hempty
        exact absurd hempty (by decide)
      | some given =>
        rw [hentry] at hname hts
        rw [← show given = .str name from hname] at h
        exact ⟨given, hts List.mem_cons_self, Value.exceeds_of_shown room given cause h⟩
    · exact hname
  · rename_i hnot
    cases hentry : Value.entry? data "hostname" with
    | none =>
      rw [hentry] at hnot
      exact absurd rfl (hnot defaultHostname)
    | some given =>
      rw [hentry] at hts
      refine reads_refuse (fun cause h => ?_) _
      exact ⟨given, hts List.mem_cons_self, Value.exceeds_of_shown room given cause h⟩

end Reads

/-- A device is as a seed gives it. -/
structure Gives (room : Nat) (data : List (Value × Value)) (d : Device) : Prop where
  /-- The name is the one given, or that of a switch without a seed. -/
  hostname : (Value.entry? data "hostname").getD (.str defaultHostname) = .str d.hostname
  /-- The interfaces are those described, or those of a switch without a seed. -/
  interfaces : described data = [] ∧ d.interfaces = defaultInterfaces ∨
    List.Forall₂ (fun raw i => Describes room (fieldsOf raw) i) (described data) d.interfaces
  /-- The VLANs given are numbers, and the positive ones are VLANs of the device. -/
  vlans : ∀ v ∈ vlanItems data, ∃ n, v.toWhole = .ok n ∧ (0 < n → n ∈ d.vlans)
  /-- The device is well-formed. -/
  wellFormed : d.WellFormed

/-- What describes one of some interfaces is among what describes all of them, and the other way
round. -/
theorem exists_of_mem_described {room : Nat} {raws : List Value} {is : List Interface}
    (h : List.Forall₂ (fun raw i => Describes room (fieldsOf raw) i) raws is) :
    (∀ raw ∈ raws, ∃ i ∈ is, Describes room (fieldsOf raw) i) ∧
      ∀ i ∈ is, ∃ raw ∈ raws, Describes room (fieldsOf raw) i := by
  induction h with
  | nil =>
    exact ⟨fun raw hraw => absurd hraw List.not_mem_nil, fun i hi => absurd hi List.not_mem_nil⟩
  | @cons raw i raws is hone _ ih =>
    refine ⟨fun raw' hraw => ?_, fun i' hi => ?_⟩
    · rcases List.mem_cons.mp hraw with rfl | hraw
      · exact ⟨i, List.mem_cons_self, hone⟩
      · obtain ⟨j, hj, hdescribes⟩ := ih.1 raw' hraw
        exact ⟨j, List.mem_cons_of_mem i hj, hdescribes⟩
    · rcases List.mem_cons.mp hi with rfl | hi
      · exact ⟨raw, List.mem_cons_self, hone⟩
      · obtain ⟨raw', hraw, hdescribes⟩ := ih.2 i' hi
        exact ⟨raw', List.mem_cons_of_mem raw hraw, hdescribes⟩

/-- A field that is a number where one is wanted is no infinity. -/
theorem Describes.not_infinite {room : Nat} {fields : List (Value × Value)} {i : Interface}
    (h : Describes room fields i) (negative : Bool) :
    Value.float (.infinite negative) ∉ numbersIn fields := by
  intro hmem
  obtain ⟨key, hkey, hentry⟩ := List.mem_filterMap.mp hmem
  simp only [List.mem_cons, List.not_mem_nil, or_false] at hkey
  rcases hkey with rfl | rfl | rfl
  · have hwhole := h.vlan
    rw [hentry] at hwhole
    cases hwhole
  · have hwhole := h.mtu
    rw [hentry] at hwhole
    cases hwhole
  · have hwhole := h.speed
    rw [hentry] at hwhole
    cases hwhole

/-- A seed that starts a device has no infinity where a number is wanted. -/
theorem Gives.not_infinite {room : Nat} {data : List (Value × Value)} {d : Device}
    (h : Gives room data d) (negative : Bool) :
    Value.float (.infinite negative) ∉ numbers data := by
  intro hmem
  rcases List.mem_append.mp hmem with hitem | hfield
  · obtain ⟨n, hwhole, _⟩ := h.vlans _ hitem
    cases hwhole
  · obtain ⟨raw, hraw, hnumber⟩ := List.mem_flatMap.mp hfield
    rcases h.interfaces with ⟨hnone, _⟩ | hall
    · rw [hnone] at hraw
      exact List.not_mem_nil hraw
    · obtain ⟨i, _, hdescribes⟩ := (exists_of_mem_described hall).1 raw hraw
      exact hdescribes.not_infinite negative hnumber

end Seed

open Seed

/-- A seed starts the device that it gives, or is refused for a fault, or a value taken for a number
or for a text is to blame. -/
theorem Site.reads_bootSeed (s : Site) (data : List (Value × Value)) :
    Reads s.nesting.shown (numbers data) (texts data)
      (fun sw => Gives s.nesting.shown data sw.device) (s.bootSeed data) := by
  have hitems : vlanItems data ⊆ numbers data := List.subset_append_left _ _
  have hfields : ((described data).flatMap fun raw => numbersIn (fieldsOf raw)) ⊆ numbers data :=
    List.subset_append_right _ _
  have hname : (Value.entry? data "hostname").toList ⊆ texts data :=
    List.Subset.trans (List.subset_append_left _ _) (List.subset_append_left _ _)
  have hvlans : (Value.entry? data "vlans").toList ⊆ texts data :=
    List.Subset.trans (List.subset_append_right _ _) (List.subset_append_left _ _)
  have htexts : ((described data).flatMap fun raw => textsIn (fieldsOf raw)) ⊆ texts data :=
    List.subset_append_right _ _
  refine (reads_hostnameOf hname).bind fun hostname hhostname => ?_
  refine (reads_interfacesOf hfields htexts).bind fun interfaces hinterfaces => ?_
  refine (reads_vlansOf hitems hvlans).bind fun vlans hread => ?_
  let firstUp := (interfaces.find? fun i => i.status == .up).map (·.name)
  simp only [Site.boot]
  cases hbuild : Device.build hostname interfaces vlans (s.stampAll (bootNotices firstUp)).1 with
  | error e => exact trivial
  | ok d =>
    have hwf := Device.build_wellFormed hbuild
    obtain ⟨_, rfl⟩ := Device.build_eq_ok_iff.mp hbuild
    refine ⟨hhostname, hinterfaces, fun v hv => ?_, hwf⟩
    obtain ⟨n, hn, hwhole⟩ := hread v hv
    exact ⟨n, hwhole, fun hpos => mem_reconcileVlans.mpr ⟨Or.inl hn, hpos⟩⟩

/-- Whatever a seed holds, it starts a device or is refused for a fault, with two exceptions: an
infinity stands where a number is wanted, or the name, the VLANs or a text of an interface is not
shown, for a whole number in it is too long or something lies too deep in it. A seed with such an
infinity never starts a device. -/
theorem Site.bootSeed_boots_or_refuses (s : Site) (data : List (Value × Value)) :
    (∃ sw, s.bootSeed data = .ok sw ∧ Gives s.nesting.shown data sw.device ∧
        ∀ negative, Value.float (.infinite negative) ∉ numbers data) ∨
      (∃ fault, s.bootSeed data = .error (.refused fault)) ∨
      (s.bootSeed data = .error .infinite ∧
        ∃ negative, Value.float (.infinite negative) ∈ numbers data) ∨
      ∃ cause, s.bootSeed data = .error (.unshown cause) ∧
        ∃ v ∈ texts data, v.Exceeds s.nesting.shown cause := by
  have hreads := s.reads_bootSeed data
  cases hboot : s.bootSeed data with
  | ok sw =>
    rw [hboot] at hreads
    exact Or.inl ⟨sw, rfl, hreads, Gives.not_infinite hreads⟩
  | error e =>
    rw [hboot] at hreads
    cases e with
    | refused fault => exact Or.inr (Or.inl ⟨fault, rfl⟩)
    | infinite => exact Or.inr (Or.inr (Or.inl ⟨rfl, hreads⟩))
    | unshown cause => exact Or.inr (Or.inr (Or.inr ⟨cause, rfl, hreads⟩))
    | number | file | path => exact hreads.elim

/-- A seed with an infinite VLAN is neither taken nor refused. -/
theorem Site.bootSeed_breaks_off_at_infinity :
    ¬ ∀ (s : Site) (data : List (Value × Value)),
      (∃ sw, s.bootSeed data = .ok sw) ∨ ∃ fault, s.bootSeed data = .error (.refused fault) := by
  intro h
  have hboot : Site.quiet.bootSeed [(.str "interfaces", .list [.map [(.str "id", .str "et1"),
      (.str "name", .str "Ethernet1"), (.str "vlan", .float (.infinite false))]])] =
      .error .infinite := rfl
  rcases h Site.quiet _ with ⟨sw, hok⟩ | ⟨fault, hrefused⟩
  · exact absurd (hboot.symm.trans hok) (by rintro ⟨⟩)
  · exact absurd (hboot.symm.trans hrefused) (by rintro ⟨⟩)

end LeafSwitch
