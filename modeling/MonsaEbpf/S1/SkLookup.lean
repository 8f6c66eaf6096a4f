/-
Module: MonsaEbpf.S1.SkLookup
Layer: S1
Purpose: S1-basic/examples/network/sk_lookup: the program that counts socket lookups in `port_counts`, and
  the port that the user program shows for a key of that map. The key is called the destination port, but it
  is read from `remote_port`, the port of the peer; the map is per destination port only for lookups whose
  remote ports are, as often each, their local ports.
Imports: MonsaEbpf.Bpf.Helpers, MonsaEbpf.Bpf.Sockets, MonsaEbpf.Lib.BoundedCounts
Trusted boundary: human-reviewed translation
Main exports: PortMaps, msbSkLookup, renderedPort, PortMaps.run, portCounts_run,
  CountsDestinations, counts_destinations_iff
-/
import MonsaEbpf.Bpf.Helpers
import MonsaEbpf.Bpf.Sockets
import MonsaEbpf.Lib.BoundedCounts

namespace MonsaEbpf.S1

open BoundedCounts

/-- The maps of the program. -/
structure PortMaps where
  portCounts : CellMap U16 U64 1024

inductive PortMap where
  | portCounts
deriving DecidableEq, Repr

def portCounts : MapRef PortMap PortMaps U16 U64 1024 where
  name := .portCounts
  get := PortMaps.portCounts
  set := fun maps map => { maps with portCounts := map }
  get_set := fun _ _ => rfl
  set_get := fun _ => rfl
  set_set := fun _ _ _ => rfl

/-- `msb_sk_lookup`: count the lookup under `remote_port`, which the source names `dport`. -/
def msbSkLookup (ctx : BpfSkLookup) : StepProgram (BpfOp PortMap) PortMaps S32 := do
  let dport := ctx.remotePort
  let cnt ← bpfMapLookupElem portCounts dport
  match cnt with
  | none => do
      let _ ← bpfMapUpdateElem portCounts dport 1
      return SK_PASS
  | some cnt => do
      let _ ← syncFetchAndAdd portCounts cnt .whole 1
      return SK_PASS

/-! ### The user program -/

/-- The port that `print_map` shows for a key: `ntohs(next_key)`. -/
def renderedPort (key : U16) : U16 := ntohs key

/-! ### Run alone -/

/-- A lookup from a remote endpoint for a local one. -/
structure Lookup where
  protocol : U32
  remote : Endpoint
  here : Endpoint
deriving Repr, DecidableEq

def Lookup.ctx (lookup : Lookup) : BpfSkLookup :=
  .ofLookup lookup.protocol lookup.remote lookup.here

/-- Nothing counted yet. -/
def PortMaps.initial : PortMaps where
  portCounts := .empty

/-- Run one handler alone. -/
def PortMaps.step (maps : PortMaps) (lookup : Lookup) : PortMaps :=
  ((msbSkLookup lookup.ctx).exec maps).2

/-- The maps after lookups that are handled one after another. -/
def PortMaps.run (lookups : List Lookup) : PortMaps :=
  Runs.run PortMaps.step .initial lookups

/-- A lookup tallies its remote port in network order. -/
theorem portCounts_step (maps : PortMaps) (lookup : Lookup) :
    (maps.step lookup).portCounts = maps.portCounts.tally (htons lookup.remote.port) := by
  change ((msbSkLookup lookup.ctx).exec maps).2.portCounts = maps.portCounts.tally lookup.ctx.remotePort
  cases found : maps.portCounts.lookup lookup.ctx.remotePort with
  | none =>
      rw [msbSkLookup, exec_lookup_bind S1.portCounts found, CellMap.tally, found]
      rfl
  | some cnt =>
      rw [msbSkLookup, exec_lookup_bind S1.portCounts found, CellMap.tally, found]
      rfl

/-- The ports of lookups, as numbers. -/
def remotePorts (lookups : List Lookup) : List U16 :=
  lookups.map fun lookup => lookup.remote.port

def localPorts (lookups : List Lookup) : List U16 :=
  lookups.map fun lookup => lookup.here.port

/-- **The map after a run is the tally of the remote ports.** -/
theorem portCounts_run (lookups : List Lookup) :
    (PortMaps.run lookups).portCounts = tallies 1024 64 ((remotePorts lookups).map htons) := by
  induction lookups using List.reverseRecOn with
  | nil => rfl
  | append_singleton done lookup ih =>
      rw [PortMaps.run, Runs.run_concat, portCounts_step, ← PortMaps.run, ih, ← tallies_concat]
      simp [remotePorts]

/-! ### Per destination port -/

/-- What the map should hold: under the key that is rendered as a port, the number of lookups for that local
port. -/
def CountsDestinations (lookups : List Lookup) : Prop :=
  ∀ port key, renderedPort key = port →
    shown (PortMaps.run lookups).portCounts key = (localPorts lookups).count port

theorem htons_injective : Function.Injective htons := fun _ _ => htons_inj.mp

/-- Ports are as often in a list as their keys are among the keys. -/
theorem count_map_htons (ports : List U16) (port : U16) :
    (ports.map htons).count (htons port) = ports.count port :=
  List.count_map_of_injective ports htons htons_injective port

theorem htons_renderedPort (key : U16) : htons (renderedPort key) = key :=
  Wire.swap16_swap16 key

/-- The map counts destination ports exactly if it shows the counts of the local ports in network order. -/
theorem countsDestinations_iff_shown (lookups : List Lookup) :
    CountsDestinations lookups ↔ ∀ key, shown (tallies 1024 64 ((remotePorts lookups).map htons)) key =
      ((localPorts lookups).map htons).count key := by
  have count (key : U16) :
      ((localPorts lookups).map htons).count key = (localPorts lookups).count (renderedPort key) := by
    rw [← count_map_htons (localPorts lookups), htons_renderedPort]
  rw [CountsDestinations, portCounts_run]
  constructor
  · intro counts key
    rw [count]
    exact counts _ key rfl
  · rintro counts _ key rfl
    rw [counts, count]

/-- **The program counts per destination port** exactly for the sequences of lookups in which every port is
as often the remote port as it is the local port, with at most 1024 different ones and no count of 2^64. -/
theorem counts_destinations_iff (lookups : List Lookup) :
    CountsDestinations lookups ↔ (localPorts lookups).Perm (remotePorts lookups) ∧
      (remotePorts lookups).toFinset.card ≤ 1024 ∧ ∀ port, (remotePorts lookups).count port < 2 ^ 64 := by
  have sameLength : ((localPorts lookups).map htons).length = ((remotePorts lookups).map htons).length := by
    simp [localPorts, remotePorts]
  have sameCard : ((remotePorts lookups).map htons).toFinset.card = (remotePorts lookups).toFinset.card := by
    rw [← Finset.card_image_of_injective (remotePorts lookups).toFinset htons_injective]
    congr 1
    ext key
    simp
  rw [countsDestinations_iff_shown, shown_eq_count_iff sameLength, sameCard,
    List.map_perm_map_iff htons_injective]
  refine and_congr_right fun _ => and_congr_right fun _ => ⟨?_, ?_⟩
  · intro bounded port
    rw [← count_map_htons]
    exact bounded _
  · intro bounded key
    rw [← htons_renderedPort key, count_map_htons]
    exact bounded _

/-- A lookup from port 40000 for port 80. -/
def lookupHttp : Lookup where
  protocol := 6
  remote := ⟨0x0a000001, 40000⟩
  here := ⟨0x0a000002, 80⟩

/-- Two lookups for port 80 are found under the port of the peer, and port 80 has none. -/
theorem counts_remote_ports :
    shown (PortMaps.run [lookupHttp, lookupHttp]).portCounts (htons 40000) = 2 ∧
      shown (PortMaps.run [lookupHttp, lookupHttp]).portCounts (htons 80) = 0 ∧
      ¬ CountsDestinations [lookupHttp, lookupHttp] := by
  have peer : shown (PortMaps.run [lookupHttp, lookupHttp]).portCounts (htons 40000) = 2 := by
    rw [portCounts_run, shown_tallies]
    decide
  have http : shown (PortMaps.run [lookupHttp, lookupHttp]).portCounts (htons 80) = 0 := by
    rw [portCounts_run, shown_tallies]
    decide
  refine ⟨peer, http, fun counts => ?_⟩
  have two := counts 80 (htons 80) (ntohs_htons 80)
  rw [http] at two
  exact absurd two (by decide)

end MonsaEbpf.S1
