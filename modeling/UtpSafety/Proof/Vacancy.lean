import Mathlib.Data.List.Perm.Subperm
import UtpSafety.Lib.Serial
import UtpSafety.Proof.Demux

/-!
# Keys that stay taken

A key is taken as long as the routing table has an entry for it. The entry of a live line has to be
there; the entry of a line whose receiver was dropped is only left over, until a poll happens to get a
packet for the key. Such abandoned keys are the one reason why `insert_connection` refuses a key that
nobody holds, and why `register_connection` may draw ids for ever.
-/

namespace UtpSafety

/-- An action of the run has dropped the receiver of a line for the key, and no poll after it has got a
packet for the key. -/
def Abandoned (actions : List HubAction) (hub : Hub) (key : UInt16 × SocketAddr) : Prop :=
  ∃ n before after, actions = before ++ .drop n :: after
    ∧ hub.lines[n]?.map Line.key = some key ∧ packetsFor key (after.flatMap HubAction.buffers) = []

namespace HubAction

variable {action : HubAction} {events : List HubEvent} {n : Nat}

theorem Records.packetsFor_eq (hrecords : action.Records events) (key : UInt16 × SocketAddr) :
    packetsFor key events = packetsFor key action.buffers := by
  cases hrecords with
  | poll answers => rfl
  | register remoteAddr draws line connectionId hdraw => rfl
  | insert connectionId remoteAddr line => rfl
  | refused connectionId remoteAddr => rfl
  | drop line => rfl
  | getSyn => rfl

theorem packetsFor_flatten {actions : List HubAction} {records : List (List HubEvent)}
    (hrecords : List.Forall₂ Records actions records) (key : UInt16 × SocketAddr) :
    packetsFor key records.flatten = packetsFor key (actions.flatMap buffers) := by
  induction hrecords with
  | nil => rfl
  | cons hfirst _ ih =>
      rw [List.flatten_cons, List.flatMap_cons, packetsFor_append, packetsFor_append, ih,
        hfirst.packetsFor_eq]

theorem dropped_notMem_buffers (answers : List Received) :
    HubEvent.dropped n ∉ Received.buffers answers := by
  induction answers with
  | nil => exact List.not_mem_nil
  | cons answer answers ih =>
      cases answer with
      | datagram bytes remoteAddr => simpa [Received.buffers] using ih
      | recvFailed => exact ih
      | recvNotReady => exact List.not_mem_nil
      | notReady => exact List.not_mem_nil
      | readyFailed => exact List.not_mem_nil

theorem Records.eq_drop (hrecords : action.Records events) (hdropped : .dropped n ∈ events) :
    action = .drop n := by
  cases hrecords with
  | poll answers => exact absurd hdropped (dropped_notMem_buffers answers)
  | register remoteAddr draws line connectionId hdraw => simp at hdropped
  | insert connectionId remoteAddr line => simp at hdropped
  | refused connectionId remoteAddr => simp at hdropped
  | drop line =>
      rw [List.mem_singleton, HubEvent.dropped.injEq] at hdropped
      rw [hdropped]
  | getSyn => simp at hdropped

/-- A drop that is recorded was an action. -/
theorem drop_mem {actions : List HubAction} {records : List (List HubEvent)}
    (hrecords : List.Forall₂ Records actions records) (hdropped : .dropped n ∈ records.flatten) :
    .drop n ∈ actions := by
  obtain ⟨action, haction, events, hevents, hmem⟩ := Run.exists_of_mem_flatten hrecords hdropped
  exact hevents.eq_drop hmem ▸ haction

end HubAction

namespace Hub

/-- What comes after an action that drops a receiver comes after its record. -/
theorem history_of_drop {hub final : Hub} {before after : List HubAction} {n : Nat}
    (hexec : Run.exec step hub (before ++ .drop n :: after) = some final) :
    ∃ earlier later, final.history = earlier ++ .dropped n :: later
      ∧ ∀ key, packetsFor key later = packetsFor key (after.flatMap HubAction.buffers) := by
  obtain ⟨middle, -, hrest⟩ := Run.exec_append.mp hexec
  obtain ⟨dropped, hstep, hafter⟩ := Run.exec_cons.mp hrest
  obtain ⟨events, hevents, hhistory⟩ := records_of_step hstep
  obtain ⟨records, hrecords, hfinal⟩ := records_of_exec hafter
  cases hevents with
  | drop line =>
      refine ⟨middle.history, records.flatten, ?_, HubAction.packetsFor_flatten hrecords⟩
      rw [hfinal, hhistory, List.append_assoc]
      rfl

def isDropped (hub : Hub) (n : Nat) : Bool :=
  match hub.lines[n]? with
  | none => false
  | some line => !line.alive

/-- The history records the opening of a line under its own key, and its drop once. -/
structure Logged (hub : Hub) : Prop where
  opens : ∀ n key, .opened n key ∈ hub.history → hub.lines[n]?.map Line.key = some key
  drops : ∀ n, hub.history.count (.dropped n) = if hub.isDropped n then 1 else 0

theorem logged_bound (localAddr : SocketAddr) : (bound localAddr).Logged where
  opens := by simp [bound]
  drops := by simp [bound, isDropped]

theorem map_key_modify {change : Line → Line} (hchange : ∀ line, (change line).key = line.key)
    (lines : List Line) (m n : Nat) :
    (lines.modify m change)[n]?.map Line.key = lines[n]?.map Line.key := by
  rw [List.getElem?_modify]
  cases lines[n]? with
  | none => rfl
  | some line =>
      by_cases hsame : m = n <;> simp [hsame, hchange]

namespace Logged

variable {hub hub' : Hub} (hlogged : hub.Logged)
include hlogged

theorem datagram {bytes : Bytes} {remoteAddr : SocketAddr}
    (hhistory : hub'.history = hub.history ++ [.datagram bytes remoteAddr])
    (hkeys : ∀ n : Nat, hub'.lines[n]?.map Line.key = hub.lines[n]?.map Line.key)
    (hdropped : ∀ n, hub'.isDropped n = hub.isDropped n) : hub'.Logged where
  opens n key hopened := by
    rw [hhistory] at hopened
    rw [hkeys]
    exact hlogged.opens n key (by simpa using hopened)
  drops n := by
    rw [hhistory, List.count_append, hlogged.drops, hdropped]
    simp

theorem opened (socket : UtpSocket) (key : UInt16 × SocketAddr) :
    (hub.openLine socket key).Logged where
  opens n key' hopened := by
    simp only [openLine, List.mem_append, List.mem_singleton, HubEvent.opened.injEq] at hopened ⊢
    rcases hopened with hold | ⟨rfl, rfl⟩
    · have hkey := hlogged.opens n key' hold
      have hlt : n < hub.lines.length := by
        by_contra hbeyond
        simp [List.getElem?_eq_none (by omega : hub.lines.length ≤ n)] at hkey
      rw [List.getElem?_append_left hlt]
      exact hkey
    · simp
  drops n := by
    have hdropped : (hub.openLine socket key).isDropped n = hub.isDropped n := by
      simp only [isDropped, openLine]
      rcases Nat.lt_trichotomy n hub.lines.length with hlt | rfl | hgt
      · rw [List.getElem?_append_left hlt]
      · simp
      · rw [List.getElem?_eq_none (by simp; omega), List.getElem?_eq_none (by omega)]
    rw [hdropped]
    simp [openLine, hlogged.drops]

theorem dropped {m : Nat} (halive : hub.isAlive m = true) :
    ({ hub with lines := hub.lines.modify m fun line => { line with alive := false } }.logged
      (.dropped m)).Logged where
  opens n key hopened := by
    refine (map_key_modify ?_ hub.lines m n).trans ?_
    · exact fun _ => rfl
    · exact hlogged.opens n key (by simpa [logged] using hopened)
  drops n := by
    obtain ⟨line, hline, hlive⟩ := exists_of_isAlive halive
    have hbefore := hlogged.drops n
    by_cases hsame : m = n
    · subst hsame
      simp [isDropped, hline, hlive] at hbefore
      simp [logged, isDropped, hline, hbefore]
    · have hdropped : ({ hub with
          lines := hub.lines.modify m fun line => { line with alive := false } }.logged
            (.dropped m)).isDropped n = hub.isDropped n := by
        simp only [isDropped, logged, List.getElem?_modify_ne _ _ hsame]
      rw [hdropped, ← hbefore]
      simp [logged, hsame]

theorem moved (hmoved : Moved hub hub') : hub'.Logged := by
  cases hmoved with
  | ignored bytes remoteAddr _ => exact hlogged.datagram rfl (fun _ => rfl) fun _ => rfl
  | queued bytes remoteAddr packet _ _ => exact hlogged.datagram rfl (fun _ => rfl) fun _ => rfl
  | unrouted bytes remoteAddr packet _ _ _ => exact hlogged.datagram rfl (fun _ => rfl) fun _ => rfl
  | delivered bytes remoteAddr packet m _ _ _ _ =>
      refine hlogged.datagram rfl (fun n => ?_) fun n => ?_
      · apply map_key_modify
        exact fun _ => rfl
      · simp only [isDropped, logged, deliver, List.getElem?_modify]
        cases hub.lines[n]? with
        | none => rfl
        | some line => by_cases hsame : m = n <;> simp [hsame]
  | removed bytes remoteAddr packet m _ _ _ _ => exact hlogged.datagram rfl (fun _ => rfl) fun _ => rfl
  | opened key _ => exact hlogged.opened _ key
  | dropped m halive => exact hlogged.dropped halive
  | took syn rest _ => exact ⟨hlogged.opens, hlogged.drops⟩
  | stopped => exact ⟨hlogged.opens, hlogged.drops⟩

end Logged

theorem logged_of_exec {localAddr : SocketAddr} {actions : List HubAction} {final : Hub}
    (hexec : Run.exec Hub.step (bound localAddr) actions = some final) : final.Logged :=
  invariant_of_exec (fun _ _ hlogged hmoved => hlogged.moved hmoved) (logged_bound localAddr) hexec

theorem after_eq_of_count {events before after before' after' : List HubEvent} {event : HubEvent}
    (hcount : events.count event = 1) (hsplit : events = before ++ event :: after)
    (hsplit' : events = before' ++ event :: after') : after = after' := by
  have hfirst : event ∉ before ∧ event ∉ after := by
    rw [hsplit, List.count_append, List.count_cons_self] at hcount
    exact ⟨List.count_eq_zero.mp (by omega), List.count_eq_zero.mp (by omega)⟩
  rcases List.append_eq_append_iff.mp (hsplit.symm.trans hsplit') with
    ⟨middle, rfl, hafter⟩ | ⟨middle, rfl, hafter⟩
  · cases middle with
    | nil => exact (List.cons.inj hafter).2
    | cons first middle =>
        have hinside := (List.cons.inj hafter).2
        exact absurd (by simp [hinside]) hfirst.2
  · cases middle with
    | nil => exact (List.cons.inj hafter).2.symm
    | cons first middle =>
        have hsame := (List.cons.inj hafter).1
        exact absurd (by simp [hsame]) hfirst.1

/-- The record of a drop is there once, so what comes after it is the same however it is found. -/
theorem Logged.after_eq {hub : Hub} (hlogged : hub.Logged) {n : Nat} {line : Line}
    (hline : hub.lines[n]? = some line) (hdropped : line.alive = false)
    {before after before' after' : List HubEvent}
    (hsplit : hub.history = before ++ .dropped n :: after)
    (hsplit' : hub.history = before' ++ .dropped n :: after') : after = after' := by
  have hcount : hub.history.count (.dropped n) = 1 := by
    rw [hlogged.drops]
    simp [isDropped, hline, hdropped]
  exact after_eq_of_count hcount hsplit hsplit'

theorem Story.history_dropped {hub : Hub} {n : Nat} {line : Line}
    {before during rest : List HubEvent}
    (hstory : Story hub n line before during (.dropped n :: rest)) :
    hub.history = (before ++ .opened n line.key :: during) ++ .dropped n :: rest := by
  rw [hstory.history, List.append_assoc, List.cons_append]

section

variable {localAddr : SocketAddr} {actions : List HubAction} {hub : Hub}
  (hexec : Run.exec step (bound localAddr) actions = some hub)
include hexec

/-- The abandoned keys are the ones that the table leads to a dropped line. -/
theorem abandoned_iff {key : UInt16 × SocketAddr} :
    Abandoned actions hub key ↔
      ∃ n, hub.socket.routingTable.lookup key = some n ∧ hub.isAlive n = false := by
  have hdemuxed := demuxed_of_exec hexec
  have hlogged := logged_of_exec hexec
  constructor
  · rintro ⟨n, before, after, rfl, hkey, hnothing⟩
    obtain ⟨earlier, later, hsplit, hpackets⟩ := history_of_drop hexec
    obtain ⟨line, hline, rfl⟩ := Option.map_eq_some_iff.mp hkey
    have hdropped : line.alive = false := by
      by_contra halive
      have hcount := hlogged.drops n
      simp [isDropped, hline, halive, hsplit] at hcount
    obtain ⟨before', during, after', hstory⟩ := hdemuxed.stories n line hline
    obtain ⟨rest, rfl⟩ := hstory.dropped hdropped
    obtain rfl := hlogged.after_eq hline hdropped hsplit hstory.history_dropped
    rw [← hpackets] at hnothing
    exact ⟨n, hstory.listed.mpr hnothing, (isAlive_of_getElem? hline).trans hdropped⟩
  · rintro ⟨n, hlookup, hdead⟩
    obtain ⟨line, hline, rfl⟩ := hdemuxed.entries key n hlookup
    have hdropped : line.alive = false := (isAlive_of_getElem? hline).symm.trans hdead
    obtain ⟨before', during, after', hstory⟩ := hdemuxed.stories n line hline
    obtain ⟨rest, rfl⟩ := hstory.dropped hdropped
    obtain ⟨records, hrecords, hhistory⟩ := records_of_exec hexec
    have hmem : HubEvent.dropped n ∈ records.flatten := by
      rw [show records.flatten = hub.history from hhistory.symm, hstory.history_dropped]
      exact List.mem_append_right _ List.mem_cons_self
    obtain ⟨before, after, rfl⟩ := List.append_of_mem (HubAction.drop_mem hrecords hmem)
    obtain ⟨earlier, later, hsplit, hpackets⟩ := history_of_drop hexec
    obtain rfl := hlogged.after_eq hline hdropped hsplit hstory.history_dropped
    refine ⟨n, before, after, rfl, ?_, ?_⟩
    · rw [hline]
      rfl
    · rw [← hpackets]
      exact hstory.listed.mp hlookup

theorem exists_live_of_lookup (hnone : ∀ key, ¬Abandoned actions hub key)
    {key : UInt16 × SocketAddr} (hlookup : hub.socket.routingTable.lookup key ≠ none) :
    ∃ line ∈ hub.lines, line.alive = true ∧ line.key = key := by
  obtain ⟨n, hn⟩ := Option.ne_none_iff_exists'.mp hlookup
  obtain ⟨line, hline, hkey⟩ := (demuxed_of_exec hexec).entries key n hn
  refine ⟨line, List.mem_of_getElem? hline, ?_, hkey⟩
  by_contra hdead
  refine hnone key ((abandoned_iff hexec).mpr ⟨n, hn, ?_⟩)
  rw [isAlive_of_getElem? hline]
  simpa using hdead

end

end Hub

theorem length_ge_of_all_ids {ids : List UInt16} (hall : ∀ id : UInt16, id ∈ ids) :
    65536 ≤ ids.length := by
  obtain ⟨numbers, hlength, hnodup⟩ : ∃ numbers : List UInt16,
      numbers.length = 65536 ∧ numbers.Nodup := by
    refine ⟨(Serial.number 0 (List.replicate 65536 ())).map Prod.fst, ?_, ?_⟩
    · rw [List.length_map, Serial.length_number, List.length_replicate]
    · rw [Serial.nodup_number_iff, List.length_replicate]
  have hsubset : numbers ⊆ ids := fun id _ => hall id
  calc 65536 = numbers.length := hlength.symm
    _ ≤ ids.length := (List.subperm_of_subset hnodup hsubset).length_le

/-- **What dead connections block.** At any time of any run, every key that no live receiver holds can
be inserted, and every registration for an address with fewer than `2 ^ 16` live receivers ends, if and
only if no key is abandoned: after every action that dropped a receiver, a poll has got a packet for the
key of that receiver. -/
theorem dead_lines_block_iff {localAddr : SocketAddr} {actions : List HubAction} {final : Hub}
    (hexec : Run.exec Hub.step (Hub.bound localAddr) actions = some final) :
    ((∀ connectionId remoteAddr, (∀ line ∈ final.lines, line.alive = true →
        line.key ≠ (connectionId, remoteAddr)) →
      ∃ socket, final.socket.insertConnection connectionId remoteAddr final.lines.length = .ok socket)
      ∧ ∀ remoteAddr, (final.lines.filter fun line =>
          line.alive && line.key.2 = remoteAddr).length < 65536 →
        ∀ draws : List UInt16, (∀ connectionId, connectionId ∈ draws) →
          (final.socket.registerConnection remoteAddr final.lines.length draws).isSome = true) ↔
    ∀ key, ¬Abandoned actions final key := by
  have hdemuxed := Hub.demuxed_of_exec hexec
  constructor
  · rintro ⟨hinserts, -⟩ ⟨connectionId, remoteAddr⟩ habandoned
    obtain ⟨n, hlookup, hdead⟩ := (Hub.abandoned_iff hexec).mp habandoned
    obtain ⟨socket, hinsert⟩ := hinserts connectionId remoteAddr (by
      intro line hmem halive hkey
      obtain ⟨m, hline⟩ := List.mem_iff_getElem?.mp hmem
      have hlisted := hdemuxed.lookup_of_alive hline halive
      rw [hkey, hlookup, Option.some.injEq] at hlisted
      subst hlisted
      rw [Hub.isAlive_of_getElem? hline, halive] at hdead
      cases hdead)
    simp [UtpSocket.insertConnection, hlookup] at hinsert
  · intro hnone
    constructor
    · intro connectionId remoteAddr hfree
      have hvacant : final.socket.routingTable.lookup (connectionId, remoteAddr) = none := by
        by_contra htaken
        obtain ⟨line, hmem, halive, hkey⟩ := Hub.exists_live_of_lookup hexec hnone htaken
        exact hfree line hmem halive hkey
      simp [UtpSocket.insertConnection, hvacant]
    · intro remoteAddr hfew draws hdraws
      by_contra hstuck
      rw [Option.not_isSome_iff_eq_none, UtpSocket.registerConnection_eq_none_iff] at hstuck
      let live := final.lines.filter fun line => line.alive && line.key.2 = remoteAddr
      have hall : ∀ connectionId : UInt16, connectionId ∈ live.map fun line => line.key.1 := by
        intro connectionId
        obtain ⟨line, hmem, halive, hkey⟩ := Hub.exists_live_of_lookup hexec hnone
          (hstuck connectionId (hdraws connectionId))
        exact List.mem_map.mpr ⟨line, by simp [live, hmem, halive, hkey], by simp [hkey]⟩
      have hmany := length_ge_of_all_ids hall
      rw [List.length_map] at hmany
      exact absurd hfew (by simpa [live] using hmany)

/-- A connection is inserted and dropped, and a packet for it comes. -/
def visitedActions : List HubAction :=
  [.insert 8 peerAddr, .drop 0, .poll [.datagram (datagramOf .state 8 1) peerAddr, .notReady]]

def visited : Hub :=
  (Run.exec Hub.step (Hub.bound (.v4 0x7F000001 9000)) visitedActions).get (by decide)

theorem dead_lines_block_iff_visited :
    Run.exec Hub.step (Hub.bound (.v4 0x7F000001 9000)) visitedActions = some visited
      ∧ (∃ socket, visited.socket.insertConnection 8 peerAddr visited.lines.length = .ok socket)
      ∧ ∀ key, ¬Abandoned visitedActions visited key := by
  have hexec : Run.exec Hub.step (Hub.bound (.v4 0x7F000001 9000)) visitedActions = some visited :=
    (Option.some_get _).symm
  have htable : visited.socket.routingTable = ∅ := by decide
  have hnone : ∀ key, ¬Abandoned visitedActions visited key := by
    intro key habandoned
    obtain ⟨n, hlookup, -⟩ := (Hub.abandoned_iff hexec).mp habandoned
    simp [htable] at hlookup
  have hfree := ((dead_lines_block_iff hexec).mpr hnone).1 8 peerAddr (by decide)
  exact ⟨hexec, hfree, hnone⟩

/-- The connection is dropped and no packet for it comes: the key that nobody holds is refused. -/
theorem dead_line_blocks :
    ∃ final, Run.exec Hub.step (Hub.bound (.v4 0x7F000001 9000)) [.insert 8 peerAddr, .drop 0]
        = some final
      ∧ (∀ line ∈ final.lines, line.alive = true → line.key ≠ (8, peerAddr))
      ∧ final.socket.insertConnection 8 peerAddr final.lines.length
        = .error (.connection (.alreadyExists 8 peerAddr)) :=
  ⟨_, rfl, by decide, by decide⟩

end UtpSafety
