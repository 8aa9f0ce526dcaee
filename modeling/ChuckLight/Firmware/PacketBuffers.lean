import ChuckLight.Firmware.PayloadReads
import ChuckLight.Support.Runs
import Mathlib.Data.Finset.Basic

/-!
# Packet buffers

Every packet that is sent takes a buffer from `pbuf_alloc` that is never given
back: `udp_send` does not take it over, and neither of the two send functions
frees it.  `udp_recieve` frees the buffer of the datagram.
-/

namespace ChuckLight.Firmware

/-! ## Buffers -/

/-- The buffers that are in use, and the next one that `pbuf_alloc` gives. -/
structure PbufPool where
  live : Finset ℕ
  next : ℕ
  fresh : ∀ p ∈ live, p < next

namespace PbufPool

def empty : PbufPool := ⟨∅, 0, fun p hp => absurd hp (Finset.notMem_empty p)⟩

def pbufAlloc (pool : PbufPool) : ℕ × PbufPool :=
  (pool.next, ⟨insert pool.next pool.live, pool.next + 1, fun p hp => by
    rcases Finset.mem_insert.mp hp with rfl | hp
    · exact Nat.lt_succ_self _
    · exact Nat.lt_succ_of_lt (pool.fresh p hp)⟩)

/-- A buffer that is not in use cannot be freed. -/
def pbufFree (p : ℕ) (pool : PbufPool) : Option PbufPool :=
  if p ∈ pool.live then
    some ⟨pool.live.erase p, pool.next, fun q hq =>
      pool.fresh q (Finset.mem_of_mem_erase hq)⟩
  else none

theorem next_notMem (pool : PbufPool) : pool.next ∉ pool.live :=
  fun h => absurd (pool.fresh _ h) (Nat.lt_irrefl _)

end PbufPool

/-- The variables of `udp_controller.c` and the packet buffers. -/
structure UdpDriver where
  udp : UdpController
  pool : PbufPool

/-- How a call ends: it returns, the controller restarts, or a buffer is freed
that is not in use. -/
inductive CallEnd where
  | returned (d : UdpDriver)
  | restarted
  | freedTwice

namespace UdpDriver

open UdpController (Memory readId readRecieve)

def start : UdpDriver := ⟨UdpController.init, .empty⟩

/-! ## Calls -/

/-- The result of `udp_send` is only logged. -/
def sendDataPacket (dataType userData : UInt8) (otherData : ℕ → Int32)
    (_udpSend : Int8) (d : UdpDriver) : UdpDriver :=
  match d.udp.DEST_IP with
  | none => d
  | some _ =>
      let (_, pool) := d.pool.pbufAlloc
      ⟨d.udp.sendDataPacket dataType userData otherData, pool⟩

def sendPollReplyPacket (mode : UInt8) (batteryLevel : Int32) (msgLen : UInt8)
    (msg : Option (List UInt8)) (_udpSend : Int8) (d : UdpDriver) :
    UdpDriver :=
  match d.udp.DEST_IP with
  | none => d
  | some _ =>
      let (_, pool) := d.pool.pbufAlloc
      ⟨d.udp.sendPollReplyPacket mode batteryLevel msgLen msg, pool⟩

/-- `FREE_P`. -/
def freeP (p : ℕ) (d : UdpDriver) : CallEnd :=
  match d.pool.pbufFree p with
  | none => .freedTwice
  | some pool => .returned { d with pool := pool }

def udpRecieve (p : ℕ) (addr : IpAddr) (mem : Memory) (udpSend : Int8)
    (d : UdpDriver) : CallEnd :=
  if ¬ (readId mem ID 0).2 then d.freeP p
  else if mem 8 = COMMAND_PACKET_ID then
    if mem 10 = HARD_RESET_COMMAND then .restarted
    else if mem 10 = SOFT_RESET_COMMAND then .restarted
    else { d with udp := d.udp.setMode (mem 9) }.freeP p
  else if mem 8 = POLL_PACKET_ID then
    ({ d with
        udp := { d.udp with DEST_IP := some addr }.setMode (mem 9) :
        UdpDriver }.sendPollReplyPacket (mem 9) UdpController.batteryLevel 0
          none udpSend).freeP p
  else d.freeP p

/-- A call with its arguments, and the result that `udp_send` will give. -/
inductive Call where
  | sendDataPacket (dataType userData : UInt8) (otherData : ℕ → Int32)
      (udpSend : Int8)
  | sendPollReplyPacket (mode : UInt8) (batteryLevel : Int32) (msgLen : UInt8)
      (msg : Option (List UInt8)) (udpSend : Int8)
  | udpRecieve (addr : IpAddr) (mem : Memory) (udpSend : Int8)

/-- A received datagram comes in a buffer of its own. -/
def run (d : UdpDriver) : Call → CallEnd
  | .sendDataPacket dataType userData otherData udpSend =>
      .returned (d.sendDataPacket dataType userData otherData udpSend)
  | .sendPollReplyPacket mode batteryLevel msgLen msg udpSend =>
      .returned (d.sendPollReplyPacket mode batteryLevel msgLen msg udpSend)
  | .udpRecieve addr mem udpSend =>
      let (p, pool) := d.pool.pbufAlloc
      { d with pool := pool }.udpRecieve p addr mem udpSend

/-- The state in which the next call finds the driver. -/
def step (d : UdpDriver) (call : Call) : UdpDriver :=
  match d.run call with
  | .returned d' => d'
  | .restarted => start
  | .freedTwice => d

/-! ## Balance -/

/-- When the call returns, the buffers that it was given or has allocated are
freed, and no other ones. -/
def Balanced (d : UdpDriver) (call : Call) : Prop :=
  match d.run call with
  | .returned d' => d'.pool.live = d.pool.live
  | .restarted => True
  | .freedTwice => False

/-- A poll packet of the protocol. -/
def IsPoll (mem : Memory) : Prop :=
  (readId mem ID 0).2 = true ∧ mem 8 = POLL_PACKET_ID

/-- The call sends a packet. -/
def Sends (d : UdpDriver) : Call → Prop
  | .sendDataPacket .. => d.udp.DEST_IP ≠ none
  | .sendPollReplyPacket .. => d.udp.DEST_IP ≠ none
  | .udpRecieve _ mem _ => IsPoll mem

variable {d : UdpDriver} {p : ℕ}

theorem freeP_of_mem (h : p ∈ d.pool.live) :
    ∃ pool, d.freeP p = .returned { d with pool := pool } ∧
      pool.live = d.pool.live.erase p := by
  unfold freeP PbufPool.pbufFree
  rw [if_pos h]
  exact ⟨_, rfl, rfl⟩

/-- A buffer that has just been allocated is freed again. -/
theorem freeP_pbufAlloc (pool : PbufPool) (udp : UdpController) :
    ∃ pool', freeP pool.pbufAlloc.1 ⟨udp, pool.pbufAlloc.2⟩ =
        .returned ⟨udp, pool'⟩ ∧
      pool'.live = pool.live := by
  obtain ⟨pool', hfree, hlive⟩ := freeP_of_mem
    (d := ⟨udp, pool.pbufAlloc.2⟩) (Finset.mem_insert_self pool.next pool.live)
  exact ⟨pool', hfree,
    hlive.trans (Finset.erase_insert pool.next_notMem)⟩

theorem pool_sendPollReplyPacket (hdest : d.udp.DEST_IP ≠ none)
    (mode : UInt8) (level : Int32) (msgLen : UInt8)
    (msg : Option (List UInt8)) (udpSend : Int8) :
    sendPollReplyPacket mode level msgLen msg udpSend d =
      ⟨d.udp.sendPollReplyPacket mode level msgLen msg,
        d.pool.pbufAlloc.2⟩ := by
  unfold sendPollReplyPacket
  cases haddr : d.udp.DEST_IP with
  | none => exact absurd haddr hdest
  | some addr => rfl

/-- The buffer of a poll reply stays in use. -/
theorem freeP_sendPollReplyPacket (pool : PbufPool) {udp : UdpController}
    (hdest : udp.DEST_IP ≠ none) (mode : UInt8) (level : Int32)
    (msgLen : UInt8) (msg : Option (List UInt8)) (udpSend : Int8) :
    ∃ pool', freeP pool.pbufAlloc.1
        (sendPollReplyPacket mode level msgLen msg udpSend
          ⟨udp, pool.pbufAlloc.2⟩) =
        .returned ⟨udp.sendPollReplyPacket mode level msgLen msg, pool'⟩ ∧
      pool.next + 1 ∈ pool'.live := by
  have hmem : pool.next ∈ pool.pbufAlloc.2.pbufAlloc.2.live :=
    Finset.mem_insert_of_mem (Finset.mem_insert_self ..)
  rw [pool_sendPollReplyPacket (d := ⟨udp, pool.pbufAlloc.2⟩) hdest]
  obtain ⟨pool', hfree, hlive⟩ := freeP_of_mem
    (d := ⟨udp.sendPollReplyPacket mode level msgLen msg,
      pool.pbufAlloc.2.pbufAlloc.2⟩) hmem
  refine ⟨pool', hfree, ?_⟩
  rw [hlive]
  exact Finset.mem_erase.mpr
    ⟨Nat.succ_ne_self _, Finset.mem_insert_self ..⟩

theorem live_pbufAlloc_ne (pool : PbufPool) :
    pool.pbufAlloc.2.live ≠ pool.live := by
  intro h
  have hmem : pool.next ∈ pool.pbufAlloc.2.live :=
    Finset.mem_insert_self ..
  rw [h] at hmem
  exact pool.next_notMem hmem

/-- A poll packet leaves the buffer of the reply in use. -/
theorem run_of_isPoll {mem : Memory} (h : IsPoll mem) (addr : IpAddr)
    (udpSend : Int8) :
    ∃ pool, d.run (.udpRecieve addr mem udpSend) =
        .returned ⟨(readRecieve addr mem d.udp).2, pool⟩ ∧
      d.pool.next + 1 ∈ pool.live := by
  have hcommand : mem 8 ≠ COMMAND_PACKET_ID := by
    rw [h.2]
    decide
  rw [UdpController.readRecieve_of_valid h.1, if_neg hcommand, if_pos h.2]
  have hrun : d.run (.udpRecieve addr mem udpSend) =
      freeP d.pool.pbufAlloc.1 (sendPollReplyPacket (mem 9)
        UdpController.batteryLevel 0 none udpSend
        ⟨{ d.udp with DEST_IP := some addr }.setMode (mem 9),
          d.pool.pbufAlloc.2⟩) := by
    show udpRecieve d.pool.pbufAlloc.1 addr mem udpSend
      ⟨d.udp, d.pool.pbufAlloc.2⟩ = _
    unfold udpRecieve
    rw [if_neg (not_not.mpr h.1), if_neg hcommand, if_pos h.2]
  rw [hrun]
  exact freeP_sendPollReplyPacket d.pool (Option.some_ne_none addr) _ _ _ _ _

/-- Every other datagram restarts the controller, or its buffer is freed and no
other one is used. -/
theorem run_of_not_isPoll {mem : Memory} (h : ¬ IsPoll mem) (addr : IpAddr)
    (udpSend : Int8) :
    d.run (.udpRecieve addr mem udpSend) = .restarted ∨
      ∃ pool, d.run (.udpRecieve addr mem udpSend) =
          .returned ⟨(readRecieve addr mem d.udp).2, pool⟩ ∧
        pool.live = d.pool.live := by
  have hrun : d.run (.udpRecieve addr mem udpSend) =
      udpRecieve d.pool.pbufAlloc.1 addr mem udpSend
        ⟨d.udp, d.pool.pbufAlloc.2⟩ := rfl
  rw [hrun]
  unfold udpRecieve
  cases hvalid : (readId mem ID 0).2 with
  | false =>
      rw [UdpController.readRecieve_of_invalid hvalid]
      exact .inr (freeP_pbufAlloc d.pool d.udp)
  | true =>
      have hpoll : mem 8 ≠ POLL_PACKET_ID := fun hpoll => h ⟨hvalid, hpoll⟩
      rw [UdpController.readRecieve_of_valid hvalid, if_neg hpoll,
        if_neg hpoll, if_neg (not_not.mpr rfl)]
      by_cases hcommand : mem 8 = COMMAND_PACKET_ID
      · rw [if_pos hcommand, if_pos hcommand]
        by_cases hhard : mem 10 = HARD_RESET_COMMAND
        · exact .inl (if_pos hhard)
        · by_cases hsoft : mem 10 = SOFT_RESET_COMMAND
          · rw [if_neg hhard]
            exact .inl (if_pos hsoft)
          · rw [if_neg hhard, if_neg hsoft]
            have hobey : UdpController.obey (mem 10)
                (d.udp.setMode (mem 9)) = d.udp.setMode (mem 9) := by
              unfold UdpController.obey
              rw [if_neg hhard, if_neg hsoft]
            rw [hobey]
            exact .inr (freeP_pbufAlloc d.pool (d.udp.setMode (mem 9)))
      · rw [if_neg hcommand, if_neg hcommand]
        exact .inr (freeP_pbufAlloc d.pool d.udp)

/-- A call balances its buffers if and only if it sends nothing. -/
theorem balanced_iff (d : UdpDriver) (call : Call) :
    d.Balanced call ↔ ¬ d.Sends call := by
  cases call with
  | sendDataPacket dataType userData otherData udpSend =>
      show (d.sendDataPacket dataType userData otherData udpSend).pool.live =
        d.pool.live ↔ ¬ d.udp.DEST_IP ≠ none
      unfold sendDataPacket
      cases haddr : d.udp.DEST_IP with
      | none => exact iff_of_true rfl (not_not.mpr rfl)
      | some addr =>
          exact iff_of_false (live_pbufAlloc_ne d.pool)
            (not_not.mpr (Option.some_ne_none addr))
  | sendPollReplyPacket mode level msgLen msg udpSend =>
      show (d.sendPollReplyPacket mode level msgLen msg udpSend).pool.live =
        d.pool.live ↔ ¬ d.udp.DEST_IP ≠ none
      by_cases hdest : d.udp.DEST_IP = none
      · refine iff_of_true ?_ (not_not.mpr hdest)
        unfold sendPollReplyPacket
        rw [hdest]
      · rw [pool_sendPollReplyPacket hdest]
        exact iff_of_false (live_pbufAlloc_ne d.pool) (not_not.mpr hdest)
  | udpRecieve addr mem udpSend =>
      show d.Balanced (.udpRecieve addr mem udpSend) ↔ ¬ IsPoll mem
      unfold Balanced
      by_cases hpoll : IsPoll mem
      · obtain ⟨pool, hreturned, hmem⟩ := run_of_isPoll (d := d) hpoll addr
          udpSend
        rw [hreturned]
        refine iff_of_false (fun hlive => ?_) (not_not.mpr hpoll)
        have hlive' : pool.live = d.pool.live := hlive
        rw [hlive'] at hmem
        exact absurd (d.pool.fresh _ hmem) (Nat.not_lt.mpr (Nat.le_succ _))
      · refine iff_of_true ?_ hpoll
        rcases run_of_not_isPoll (d := d) hpoll addr udpSend with
            hrestarted | ⟨pool, hreturned, hlive⟩
        · rw [hrestarted]
          trivial
        · rw [hreturned]
          exact hlive

/-! ## Sequences of calls -/

def Call.Polls : Call → Prop
  | .udpRecieve _ mem _ => IsPoll mem
  | _ => False

/-- Only poll packets set the destination. -/
theorem DEST_IP_readRecieve {mem : Memory} (h : ¬ IsPoll mem) (addr : IpAddr)
    {c : UdpController} (hdest : c.DEST_IP = none) :
    (readRecieve addr mem c).2.DEST_IP = none := by
  cases hvalid : (readId mem ID 0).2 with
  | false =>
      rw [UdpController.readRecieve_of_invalid hvalid]
      exact hdest
  | true =>
      have hpoll : mem 8 ≠ POLL_PACKET_ID := fun hpoll => h ⟨hvalid, hpoll⟩
      rw [UdpController.readRecieve_of_valid hvalid, if_neg hpoll]
      split_ifs
      · show (UdpController.obey _ _).DEST_IP = none
        unfold UdpController.obey
        split_ifs
        · rfl
        · rfl
        · exact hdest
      · exact hdest

/-- Without a destination and without poll packets nothing is sent. -/
theorem step_of_not_polls (hdest : d.udp.DEST_IP = none) {call : Call}
    (hcall : ¬ call.Polls) :
    ¬ d.Sends call ∧ (d.step call).udp.DEST_IP = none := by
  cases call with
  | sendDataPacket dataType userData otherData udpSend =>
      refine ⟨not_not.mpr hdest, ?_⟩
      show (d.sendDataPacket dataType userData otherData udpSend
        ).udp.DEST_IP = none
      unfold sendDataPacket
      rw [hdest]
      exact hdest
  | sendPollReplyPacket mode level msgLen msg udpSend =>
      refine ⟨not_not.mpr hdest, ?_⟩
      show (d.sendPollReplyPacket mode level msgLen msg udpSend
        ).udp.DEST_IP = none
      unfold sendPollReplyPacket
      rw [hdest]
      exact hdest
  | udpRecieve addr mem udpSend =>
      refine ⟨hcall, ?_⟩
      unfold step
      rcases run_of_not_isPoll (d := d) hcall addr udpSend with
          hrestarted | ⟨pool, hreturned, -⟩
      · rw [hrestarted]
        rfl
      · rw [hreturned]
        exact DEST_IP_readRecieve hcall addr hdest

/-- A poll packet is answered whatever has happened before. -/
theorem sends_of_polls {call : Call} (h : call.Polls) : d.Sends call := by
  cases call with
  | sendDataPacket => exact h.elim
  | sendPollReplyPacket => exact h.elim
  | udpRecieve addr mem udpSend => exact h

theorem balanced_from_iff (calls : List Call) (hdest : d.udp.DEST_IP = none) :
    Runs.AllSteps step Balanced d calls ↔
      ∀ call ∈ calls, ¬ call.Polls := by
  induction calls generalizing d with
  | nil => exact ⟨fun _ _ h => absurd h List.not_mem_nil, fun _ => trivial⟩
  | cons call rest ih =>
      rw [List.forall_mem_cons]
      show d.Balanced call ∧ Runs.AllSteps step Balanced (d.step call) rest ↔ _
      rw [balanced_iff]
      constructor
      · rintro ⟨hsends, hrest⟩
        have hcall : ¬ call.Polls := fun h => hsends (sends_of_polls h)
        exact ⟨hcall, (ih (step_of_not_polls hdest hcall).2).mp hrest⟩
      · rintro ⟨hcall, hrest⟩
        obtain ⟨hsends, hnext⟩ := step_of_not_polls hdest hcall
        exact ⟨hsends, (ih hnext).mpr hrest⟩

/-- In a sequence of calls each call balances its buffers if and only if no poll
packet is received. -/
theorem all_balanced_iff (calls : List Call) :
    Runs.AllSteps step Balanced start calls ↔
      ∀ call ∈ calls, ¬ call.Polls :=
  balanced_from_iff calls rfl

/-- The bytes of a poll packet. -/
def pollMemory : Memory := fun i =>
  (ID ++ [POLL_PACKET_ID, UdpController.IDLE_MODE]).getD i 0

/-- The answer to a poll packet keeps a buffer. -/
theorem not_balanced_poll :
    ¬ ∀ calls, Runs.AllSteps step Balanced start calls := by
  intro h
  have hbalanced := (h [.udpRecieve 0 pollMemory 0]).1
  have hpoll : IsPoll pollMemory := ⟨by decide, by decide⟩
  exact (balanced_iff start _).mp hbalanced hpoll

end UdpDriver

end ChuckLight.Firmware
