import LeafSwitch.Proofs.Block.Port
import LeafSwitch.Proofs.Checked.Directive
import LeafSwitch.Proofs.Device.Shown
import LeafSwitch.Proofs.Number.Decimal
import LeafSwitch.Proofs.Session.Showable
import LeafSwitch.Proofs.Text.Separated

/-!
# VLANs in text

VLANs go into a device by the digits in a block, and come out by the digits in the list that is
shown. Nothing is lost on either way: a port is put into the very VLAN that a block writes, and the
list is read back as the VLANs of the device, so devices with other VLANs show another list.
-/

namespace LeafSwitch

/-! ### VLANs that a block names -/

/-- A number that may be written out names the VLAN of this number. -/
theorem vlanOfWord_toString {n : Nat} (h : n < Value.shownLimit) : vlanOfWord (toString n) = n := by
  have hread : Number.readInteger (toString n) = .ok (n : Int) :=
    Number.readInteger_toString (n := (n : Int)) h
  rw [vlanOfWord, hread]
  dsimp only
  rw [vlanOfWhole, if_neg (Int.not_lt.mpr (Int.natCast_nonneg n)), Int.toNat_natCast]

/-- Every word names a VLAN, which is not negative. -/
theorem Checked.vlanOfWord_nonneg (word : String) : 0 ≤ vlanOfWord word := by
  rw [vlanOfWord_eq]
  exact Int.natCast_nonneg _

/-- The line that puts an interface into a VLAN. -/
def vlanLine (n : Nat) : String :=
  "switchport access vlan " ++ toString n

/-- A space ends the keywords of the line. -/
theorem toList_vlanKeywords :
    "switchport access vlan ".toList = "switchport access vlan".toList ++ [' '] := by
  decide +kernel

/-- Whatever stands behind the keywords, the line is told from those that begin alike, and asks for
the VLAN that its last word names. -/
theorem plainAction_accessVlan (behind word : List Char) :
    plainAction ("switchport access vlan ".toList ++ behind) word =
      .accessVlan (vlanOfWord (String.ofList word)) := by
  have hshutdown : "switchport access vlan ".toList ++ behind ≠ "shutdown".toList := by
    intro heq
    have hsecond : some 'w' = some 'h' := congrArg (·[1]?) heq
    exact absurd hsecond (by decide)
  have hnoShutdown : "switchport access vlan ".toList ++ behind ≠ "no shutdown".toList := by
    intro heq
    have hfirst : some 's' = some 'n' := congrArg (·[0]?) heq
    exact absurd hfirst (by decide)
  have hdescription : ¬"description".toList.isPrefixOf
      ("switchport access vlan ".toList ++ behind) = true :=
    Bool.false_ne_true
  have hvlan : "switchport access vlan".toList.isPrefixOf
      ("switchport access vlan ".toList ++ behind) = true := by
    rw [List.isPrefixOf_iff_prefix, toList_vlanKeywords, List.append_assoc]
    exact List.prefix_append _ _
  rw [plainAction, if_neg hshutdown, if_neg hnoShutdown, if_neg hdescription, if_pos hvlan]

/-- The line asks for the VLAN that the word behind the keywords names. -/
theorem lineAction_accessVlan {word : String} (hword : Text.IsWord word) :
    lineAction ("switchport access vlan " ++ word).toList =
      .ok (.accessVlan (vlanOfWord word)) := by
  have hwords : Text.words ("switchport access vlan ".toList ++ word.toList) =
      ["switchport".toList, "access".toList, "vlan".toList, word.toList] := by
    have hkeywords : Text.words "switchport access vlan".toList =
        ["switchport".toList, "access".toList, "vlan".toList] := by
      decide +kernel
    rw [toList_vlanKeywords, List.append_assoc, List.singleton_append,
      Text.words_append_cons (by decide), hkeywords, hword.words_toList]
    rfl
  have hhead : ("switchport access vlan ".toList ++ word.toList).head? = some 's' := rfl
  rw [String.toList_append, lineAction, hhead, if_neg (by decide), hwords]
  dsimp only
  rw [if_neg (by decide), plainAction_accessVlan]
  exact congrArg (fun text => Except.ok (Action.accessVlan (vlanOfWord text))) String.ofList_toList

/-- The line asks for the VLAN whose number it writes. -/
theorem lineAction_vlanLine {n : Nat} (h : n < Value.shownLimit) :
    lineAction (vlanLine n).toList = .ok (.accessVlan n) := by
  have hword : Text.IsWord (toString n) := Number.isWord_toString (n : Int)
  have hvlan : vlanOfWord (toString n) = n := vlanOfWord_toString h
  have haction := lineAction_accessVlan hword
  rw [hvlan] at haction
  exact haction

/-- The line is a block of its own. -/
theorem directivesOf_vlanLine {n : Nat} (h : n < Value.shownLimit) :
    directivesOf (vlanLine n) = .ok [⟨.accessVlan n, vlanLine n, 1⟩] := by
  have hword : Text.IsWord (toString n) := Number.isWord_toString (n : Int)
  exact directivesOf_wordLine hword rfl (by decide) (by decide) (lineAction_vlanLine h)

/-- A device with the interface under an id put into a VLAN, which is added if it is positive. -/
structure Device.PutInto (before : Device) (id : String) (n : Nat) (after : Device) : Prop where
  /-- The interface is in the VLAN, and the others are as they were. -/
  interfaces : after.interfaces =
    before.interfaces.map fun i => if i.id = id then { i with vlan := n } else i
  /-- The VLAN is there if it is positive, and other VLANs are there if they were. -/
  vlans : ∀ v : Int, v ∈ after.vlans ↔ v ∈ before.vlans ∨ 0 < v ∧ v = n
  /-- The name is the same. -/
  hostname : after.hostname = before.hostname
  /-- Nothing is said about it. -/
  logs : after.logs = before.logs

/-- A block that touches a single port, and only puts it into a VLAN, leaves it in the VLAN. -/
theorem Switch.Applies.putInto {sw after : Switch} {xs : List Directive} {t : Staging} {r : Report}
    (h : sw.Applies xs t r after) (hd : sw.device.WellFormed) {id : String} {n : Nat}
    (htouches : touches sw.device xs = [(id, .accessVlan n)]) :
    sw.device.PutInto id n after.device where
  interfaces := by
    rw [h.interfaces_eq_touches, htouches]
    exact List.map_congr_left fun i _ => i.settled_actionsOn_singleton id (.accessVlan n)
  vlans v := by
    rw [h.mem_vlans_iff_touches hd, htouches]
    refine or_congr_right ?_
    constructor
    · rintro ⟨m, k, hmem, hpos, rfl⟩
      obtain ⟨-, hvlan⟩ := Prod.mk.inj (List.mem_singleton.mp hmem)
      obtain rfl := Action.accessVlan.inj hvlan
      exact ⟨Int.natCast_pos.mpr hpos, rfl⟩
    · rintro ⟨hpos, rfl⟩
      exact ⟨n, id, List.mem_singleton_self _, Int.natCast_pos.mp hpos, rfl⟩
  hostname := h.hostname_eq
  logs := by
    obtain ⟨entries, hlogs, hlength⟩ := h.exists_entries_of_touches hd
    rw [htouches] at hlength
    rw [hlogs, List.eq_nil_of_length_eq_zero hlength, List.append_nil]

/-- A block that turns to a port and names a VLAN puts the port into this VLAN. -/
theorem Switch.exists_applyBlock_vlanLine {sw : Switch} (hd : sw.device.WellFormed)
    (tracker : Option Tracker) {ref : String} (href : Text.IsWord ref) {i : Interface}
    (hi : sw.device.find? (some ref) = some i) {n : Nat} (hn : n < Value.shownLimit)
    (source : String) (intent : Option String) :
    ∃ r after, sw.applyBlock tracker ⟨portBlock ref (vlanLine n), source, intent⟩ =
        .ok (r, after) ∧ sw.device.PutInto i.id n after.device := by
  obtain ⟨block, _, r, after, hblock, happly, h⟩ :=
    Switch.exists_applyBlock hd tracker ⟨portBlock ref (vlanLine n), source, intent⟩
  refine ⟨r, after, happly, h.putInto hd ?_⟩
  rw [directivesOf_portBlock href (directivesOf_vlanLine hn)] at hblock
  obtain rfl := Except.ok.inj hblock
  rw [touches_portBlock sw.device rfl, hi]
  rfl

/-! ### VLANs that are shown -/

/-- Numbers that may be written out are read back from the list of them. -/
theorem readInteger_partsOf_join {ns : List Int} (hne : ns ≠ [])
    (h : ∀ n ∈ ns, n.natAbs < Value.shownLimit) :
    (Text.partsOf ", " (Text.join ", " (ns.map toString))).map Number.readInteger =
      ns.map .ok := by
  have hcomma : ∀ text ∈ ns.map toString, ',' ∉ text.toList := by
    intro text htext hmem
    obtain ⟨n, _, rfl⟩ := List.mem_map.mp htext
    rw [Number.toList_toString] at hmem
    rcases List.mem_append.mp hmem with hsign | hdigit
    · split at hsign
      · exact absurd hsign (by decide)
      · exact List.not_mem_nil hsign
    · exact absurd (Number.isDigit_of_mem_digits hdigit) (by decide)
  have hseparator : ", ".toList = ',' :: [' '] := rfl
  rw [Text.partsOf_join hseparator (mt List.map_eq_nil_iff.mp hne) hcomma, List.map_map]
  exact List.map_congr_left fun n hn => Number.readInteger_toString (h n hn)

/-- Lists of numbers that may be written out are told apart by what is written. -/
theorem eq_of_join_toString {ns ms : List Int} (hn : ∀ n ∈ ns, n.natAbs < Value.shownLimit)
    (hm : ∀ m ∈ ms, m.natAbs < Value.shownLimit)
    (h : Text.join ", " (ns.map toString) = Text.join ", " (ms.map toString)) : ns = ms := by
  have hinj : Function.Injective (Except.ok : Int → Except Number.IntegerError Int) :=
    fun _ _ => Except.ok.inj
  -- Nothing written is read as no number, so an empty list is told from the others too.
  have hempty : ∀ ks : List Int, (∀ k ∈ ks, k.natAbs < Value.shownLimit) →
      Text.join ", " (ks.map toString) = "" → ks = [] := by
    intro ks hks hjoin
    by_contra hne
    have hread := readInteger_partsOf_join hne hks
    rw [hjoin] at hread
    obtain ⟨k, rest, rfl⟩ := List.exists_cons_of_ne_nil hne
    exact absurd (List.cons.inj hread).1 (by rintro ⟨⟩)
  by_cases hns : ns = []
  · rw [hns] at h ⊢
    exact (hempty ms hm h.symm).symm
  by_cases hms : ms = []
  · rw [hms] at h ⊢
    exact hempty ns hn h
  have hread := readInteger_partsOf_join hns hn
  rw [h, readInteger_partsOf_join hms hm] at hread
  exact (List.map_injective_iff.mpr hinj hread).symm

/-- The line that shows the VLANs is answered with the list of them, where they may be written
out. -/
theorem Switch.interpret_showVlans {sw : Switch}
    (h : ∀ v ∈ sw.device.vlans, v.natAbs < Value.shownLimit) :
    (sw.interpret "show vlan").1 =
      .ok ("VLANs: " ++ Text.join ", " (sw.device.vlans.map toString)) := by
  have hline : Command.ofLine "show vlan" = .showVlans := by decide
  have hanswer : (sw.interpret "show vlan").1 =
      (Command.ofLine "show vlan").answer sw.device := rfl
  rw [hanswer, hline, Command.answer, sw.device.vlanText_eq, if_pos h]
  rfl

/-- Devices with VLANs that may be written out are told apart by what is shown of these. -/
theorem Switch.vlans_eq_of_interpret {sw other : Switch}
    (hsw : ∀ v ∈ sw.device.vlans, v.natAbs < Value.shownLimit)
    (hother : ∀ v ∈ other.device.vlans, v.natAbs < Value.shownLimit)
    (h : (sw.interpret "show vlan").1 = (other.interpret "show vlan").1) :
    sw.device.vlans = other.device.vlans := by
  rw [interpret_showVlans hsw, interpret_showVlans hother] at h
  exact eq_of_join_toString hsw hother (String.append_right_inj _ |>.mp (Except.ok.inj h))

/-- At any moment of a session on a device that has been built, VLANs survive being text. A word
names a VLAN that is not negative. A block that turns to a port by a word and writes a number puts
the port into the VLAN of this very number, which is there afterwards if it is positive or has been
there before. The VLANs that are shown are read back, in their order, from what stands between the
commas, so devices that show the same have the same VLANs. -/
theorem Session.vlans_survive_text {hostname : String} {interfaces : List Interface}
    {vlans : List Int} {logs : List LogEntry} {d : Device}
    (hd : Device.build hostname interfaces vlans logs = .ok d) (site : Site)
    (window : Telemetry.Window) (ops : List Operation) :
    ∃ s : Session, Session.run ⟨⟨d, site⟩, window⟩ ops = .ok s ∧
      (∀ word, Checked.vlanOfWord word = vlanOfWord word ∧ 0 ≤ Checked.vlanOfWord word) ∧
      (∀ (n : Nat) (ref : String) (i : Interface) (tracker : Option Tracker) (source : String)
        (intent : Option String), n < Value.shownLimit → Text.IsWord ref →
        s.switch.device.find? (some ref) = some i →
        ∃ r after, s.switch.applyBlock tracker ⟨portBlock ref (vlanLine n), source, intent⟩ =
            .ok (r, after) ∧ s.switch.device.PutInto i.id n after.device) ∧
      ((∀ v ∈ s.switch.device.vlans, v.natAbs < Value.shownLimit) → s.switch.device.vlans ≠ [] →
        ∃ shown, (s.switch.interpret "show vlan").1 = .ok ("VLANs: " ++ shown) ∧
          (Text.partsOf ", " shown).map Number.readInteger = s.switch.device.vlans.map .ok) ∧
      ∀ other : Switch, (∀ v ∈ s.switch.device.vlans, v.natAbs < Value.shownLimit) →
        (∀ v ∈ other.device.vlans, v.natAbs < Value.shownLimit) →
        (s.switch.interpret "show vlan").1 = (other.interpret "show vlan").1 →
        s.switch.device.vlans = other.device.vlans := by
  obtain ⟨s, hrun, hwf, _⟩ :=
    Session.exists_run (s := ⟨⟨d, site⟩, window⟩) (Device.build_wellFormed hd) ops
  refine ⟨s, hrun, ?_, ?_, ?_, ?_⟩
  · intro word
    exact ⟨Checked.vlanOfWord_eq word, Checked.vlanOfWord_nonneg word⟩
  · intro n ref i tracker source intent hn href hi
    exact Switch.exists_applyBlock_vlanLine hwf tracker href hi hn source intent
  · intro hlimit hne
    exact ⟨_, Switch.interpret_showVlans hlimit, readInteger_partsOf_join hne hlimit⟩
  · intro other hlimit hother hshown
    exact Switch.vlans_eq_of_interpret hlimit hother hshown

/-- A port that is already in some VLAN is put into another, by its name in other letters. -/
theorem Session.vlans_survive_text_twoPorts :
    ∃ s : Session, Session.run ⟨⟨Device.twoPorts, Site.quiet⟩, ⟨2, []⟩⟩
        [.block none ⟨"interface et2\nswitchport access vlan 20", "cli", none⟩] = .ok s ∧
      (∃ r after, s.switch.applyBlock none
          ⟨portBlock "ETHERNET2" (vlanLine 4094), "cli", none⟩ = .ok (r, after) ∧
        s.switch.device.PutInto "et2" 4094 after.device) ∧
      ∃ shown, (s.switch.interpret "show vlan").1 = .ok ("VLANs: " ++ shown) ∧
        (Text.partsOf ", " shown).map Number.readInteger = s.switch.device.vlans.map .ok := by
  obtain ⟨s, hrun, _, hblock, hshow, _⟩ := Session.vlans_survive_text Device.twoPorts_build
    Site.quiet ⟨2, []⟩ [.block none ⟨"interface et2\nswitchport access vlan 20", "cli", none⟩]
  have hstate : (Session.run ⟨⟨Device.twoPorts, Site.quiet⟩, ⟨2, []⟩⟩
      [.block none ⟨"interface et2\nswitchport access vlan 20", "cli", none⟩]).map
        (fun s => (s.switch.device.find? (some "ETHERNET2"), s.switch.device.vlans)) =
      .ok (some { Interface.named "et2" "Ethernet2" with vlan := 20 }, [1, 10, 20, 30]) := by
    decide +kernel
  rw [hrun] at hstate
  obtain ⟨hfind, hvlans⟩ := Prod.mk.inj (Except.ok.inj hstate)
  have hword : Text.IsWord "ETHERNET2" := Text.isWord_of_all (by decide) (by decide)
  have hnumber : (4094 : Nat) < Value.shownLimit := by decide +kernel
  have hlimit : ∀ v ∈ s.switch.device.vlans, v.natAbs < Value.shownLimit := by
    intro v hv
    have hle : v.natAbs ≤ 4094 := by
      rw [hvlans] at hv
      revert v
      decide
    exact Nat.lt_of_le_of_lt hle hnumber
  have hne : s.switch.device.vlans ≠ [] := by
    rw [hvlans]
    decide
  exact ⟨s, hrun, hblock 4094 "ETHERNET2" _ none "cli" none hnumber hword hfind, hshow hlimit hne⟩

end LeafSwitch
