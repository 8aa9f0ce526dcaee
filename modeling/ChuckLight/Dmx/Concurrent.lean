import ChuckLight.Dmx.EndToEnd
import ChuckLight.Support.Interleaving

/-!
# Two threads on one driver

`setDMX` takes no lock, so the register writes of two threads may reach the
device in any interleaving.  A call takes effect at its control write, with
whatever the command registers hold then.  If these are the values of the call
itself, at every control write, then the calls take effect one after another.
-/

namespace ChuckLight.DefaultDMX

open Ece453 (Command Device Realises Settled)
open Kernel (IoWrite)

/-- A register write and the call that makes it. -/
structure Message where
  call : Group
  write : SysWrite

/-- The four messages of a call, in the order in which it sends them. -/
def Group.sends (g : Group) : List Message := g.messages.map (Message.mk g)

/-- The messages of a thread that makes some calls. -/
def threadMessages (calls : List Group) : List Message :=
  calls.flatMap Group.sends

/-- What the device receives of a message. -/
def Message.ioWrite (m : Message) : Option IoWrite := kernelWrite m.write

/-- The call that takes effect with a message. -/
def Message.commits (m : Message) : Option Group :=
  if m.write.reg = .ctrl then some m.call else none

/-- The register writes that the device receives. -/
def deviceWrites (ms : List Message) : List IoWrite :=
  ms.filterMap Message.ioWrite

/-- The command of a call. -/
def Group.command (g : Group) : Command := commandOf g.address g.values

/-- The device after reset. -/
def initialDevice : Device := ⟨⟨0, 0, 0⟩, fun _ => 0⟩

/-- The device after a message. -/
def receive (d : Device) (m : Message) : Device :=
  (m.ioWrite.map d.write).getD d

/-- Whenever a control message arrives, the command registers hold the values
of the call that sends it. -/
def OwnRegisters : Device → List Message → Prop
  | _, [] => True
  | d, m :: rest =>
      (m.write.reg = .ctrl → d.command = m.call.command) ∧
        OwnRegisters (receive d m) rest

instance ownRegistersDecidable :
    ∀ (d : Device) (ms : List Message), Decidable (OwnRegisters d ms)
  | _, [] => inferInstanceAs (Decidable True)
  | d, m :: rest =>
      haveI := ownRegistersDecidable (receive d m) rest
      inferInstanceAs (Decidable ((_ → _) ∧ _))

/-- The calls in the order of their control messages. -/
def commitOrder (ms : List Message) : List Group :=
  ms.filterMap Message.commits

/-- The memory after the calls, one after another. -/
def storeCalls (calls : List Group) (m : Dmx512.Data) : Dmx512.Data :=
  calls.foldl (fun m g => g.command.store m) m

/-! ## One message -/

/-- The messages that calls send. -/
def Message.IsSent (m : Message) : Prop := m ∈ m.call.sends

theorem isSent_of_mem_threadMessages {calls : List Group} {m : Message}
    (h : m ∈ threadMessages calls) : m.IsSent := by
  obtain ⟨g, -, hm⟩ := List.mem_flatMap.mp h
  obtain ⟨w, hw, rfl⟩ := List.mem_map.mp hm
  exact List.mem_map.mpr ⟨w, hw, rfl⟩

/-- A message changes the memory only if it is a control write, which performs
the command that the registers then hold. -/
theorem mem_receive {m : Message} (h : m.IsSent) (d : Device) :
    (receive d m).mem =
      if m.write.reg = .ctrl then d.command.store d.mem else d.mem := by
  obtain ⟨g, w⟩ := m
  obtain ⟨w', hw, heq⟩ := List.mem_map.mp h
  injection heq with _ heq
  subst heq
  simp only [Group.messages, messages, List.mem_cons, List.not_mem_nil,
    or_false] at hw
  rcases hw with rfl | rfl | rfl | rfl <;>
    simp only [receive, Message.ioWrite, kernelWrite, Kernel.ece453WriteDmxAddr,
      Kernel.ece453WriteDmxData, Kernel.ece453WriteDmxSize,
      Kernel.ece453WriteControl, ece453Write_format08x, Option.map_some,
      Option.getD_some, Ece453.Device.write] <;>
    rfl

/-! ## All messages -/

theorem foldl_receive (ms : List Message) (d : Device) :
    ms.foldl receive d = d.writeAll (deviceWrites ms) := by
  induction ms generalizing d with
  | nil => rfl
  | cons m rest ih =>
      rw [List.foldl_cons, ih]
      unfold deviceWrites receive
      cases hm : m.ioWrite with
      | none => rw [List.filterMap_cons_none hm]; rfl
      | some w => rw [List.filterMap_cons_some hm]; rfl

/-- The memory after messages that arrive with their own registers is the
memory after the calls in the order of their control messages. -/
theorem mem_foldl_receive {ms : List Message} (hsent : ∀ m ∈ ms, m.IsSent)
    {d : Device} (hown : OwnRegisters d ms) :
    (ms.foldl receive d).mem = storeCalls (commitOrder ms) d.mem := by
  induction ms generalizing d with
  | nil => rfl
  | cons m rest ih =>
      have hm := mem_receive (hsent m (List.mem_cons_self ..)) d
      have hrest := ih (fun m' hm' => hsent m' (List.mem_cons_of_mem _ hm'))
        hown.2
      rw [List.foldl_cons, hrest, hm]
      unfold commitOrder
      by_cases hctrl : m.write.reg = .ctrl
      · rw [if_pos hctrl, hown.1 hctrl,
          List.filterMap_cons_some (f := Message.commits) (if_pos hctrl)]
        rfl
      · rw [if_neg hctrl,
          List.filterMap_cons_none (f := Message.commits) (if_neg hctrl)]

theorem commitOrder_threadMessages (calls : List Group) :
    commitOrder (threadMessages calls) = calls := by
  induction calls with
  | nil => rfl
  | cons g rest ih =>
      unfold threadMessages commitOrder at ih ⊢
      rw [List.flatMap_cons, List.filterMap_append, ih]
      rfl

theorem deviceWrites_threadMessages (calls : List Group) :
    deviceWrites (threadMessages calls) = groupWrites calls := by
  induction calls with
  | nil => rfl
  | cons g rest ih =>
      unfold threadMessages deviceWrites at ih ⊢
      rw [List.flatMap_cons, List.filterMap_append, ih, groupWrites_cons,
        ← filterMap_messages]
      unfold Group.sends
      rw [List.filterMap_map]
      rfl

/-- Calls one after another. -/
theorem mem_writeAll_threadMessages (calls : List Group) (d : Device) :
    (d.writeAll (deviceWrites (threadMessages calls))).mem =
      storeCalls calls d.mem := by
  rw [deviceWrites_threadMessages, writeAll_groupWrites]
  rfl

/-! ## On the hardware -/

/-- The memory after any register writes from reset. -/
theorem dmxData_of_realises {ws : List IoWrite}
    {schedule : List Ece453.Inputs} (hreal : Realises ws schedule) :
    (Ece453.run Ece453.reset schedule).dmxMod.dmxData =
      (initialDevice.writeAll ws).mem := by
  have hreset : Settled Ece453.reset initialDevice :=
    Ece453.settled_of_quiet ⟨rfl, rfl⟩
  exact (hreset.writeAll hreal).mem_eq

/-- Two threads, after any earlier writes `ws`: if every control message finds
its own values in the registers, the memory is the one after the same calls one
after another, in an order that keeps the order of each thread. -/
theorem dmxData_serialisable {A B : List Group} {merged : List Message}
    (hmerged : Interleaving (threadMessages A) (threadMessages B) merged)
    (ws : List IoWrite)
    (hown : OwnRegisters (initialDevice.writeAll ws) merged)
    {schedule : List Ece453.Inputs}
    (hreal : Realises (ws ++ deviceWrites merged) schedule) :
    ∃ order, Interleaving A B order ∧ ∀ serial,
      Realises (ws ++ deviceWrites (threadMessages order)) serial →
        (Ece453.run Ece453.reset schedule).dmxMod.dmxData =
          (Ece453.run Ece453.reset serial).dmxMod.dmxData := by
  have hsent : ∀ m ∈ merged, m.IsSent := by
    intro m hm
    rcases hmerged.mem hm with hm | hm
    · exact isSent_of_mem_threadMessages hm
    · exact isSent_of_mem_threadMessages hm
  have horder : Interleaving (commitOrder (threadMessages A))
      (commitOrder (threadMessages B)) (commitOrder merged) :=
    hmerged.filterMap _
  rw [commitOrder_threadMessages, commitOrder_threadMessages] at horder
  refine ⟨commitOrder merged, horder, fun serial hserial => ?_⟩
  rw [dmxData_of_realises hreal, dmxData_of_realises hserial,
    Ece453.Device.writeAll_append, Ece453.Device.writeAll_append,
    mem_writeAll_threadMessages, ← foldl_receive]
  exact mem_foldl_receive hsent hown

/-- Channel 1 set to 10 by one thread. -/
def firstCall : Group := ⟨1, [10]⟩

/-- Channel 100 set to 20 by the other thread. -/
def secondCall : Group := ⟨100, [20]⟩

/-- Channel 100 set to 10 by the other thread. -/
def sameDataCall : Group := ⟨100, [10]⟩

/-- Both calls write their data, and then one after the other the rest. -/
def overlappedMessages : List Message :=
  firstCall.sends.take 1 ++ sameDataCall.sends.take 1 ++
    (firstCall.sends.drop 1 ++ sameDataCall.sends.drop 1)

theorem dmxData_serialisable_overlapped :
    ∃ order, Interleaving [firstCall] [sameDataCall] order ∧ ∀ serial,
      Realises ([] ++ deviceWrites (threadMessages order)) serial →
        (Ece453.run Ece453.reset (Ece453.busSchedule ([] ++ deviceWrites
          overlappedMessages))).dmxMod.dmxData =
            (Ece453.run Ece453.reset serial).dmxMod.dmxData :=
  have hmerged : Interleaving (threadMessages [firstCall])
      (threadMessages [sameDataCall]) overlappedMessages :=
    .left (.right (Interleaving.append (firstCall.sends.drop 1 ++ [])
      (sameDataCall.sends.drop 1 ++ [])))
  dmxData_serialisable hmerged [] (by decide) (Ece453.realises_busSchedule _)

/-- The data write of the first call comes first, then the whole second call,
then the rest of the first call. -/
def tornMessages : List Message :=
  firstCall.sends.take 1 ++ secondCall.sends ++ firstCall.sends.drop 1

theorem tornMessages_interleaving :
    Interleaving (threadMessages [firstCall]) (threadMessages [secondCall])
      tornMessages :=
  .left (.right (.right (.right (.right (Interleaving.append _ [])))))

/-- The first call then stores the data of the second at its own address. -/
theorem not_serialisable_tornMessages :
    Accepts firstCall.address firstCall.values ∧
      Accepts secondCall.address secondCall.values ∧
      Interleaving (threadMessages [firstCall]) (threadMessages [secondCall])
        tornMessages ∧
      ∀ schedule, Realises (deviceWrites tornMessages) schedule →
        ∀ order, Interleaving [firstCall] [secondCall] order →
          ∀ serial, Realises (deviceWrites (threadMessages order)) serial →
            (Ece453.run Ece453.reset schedule).dmxMod.dmxData ≠
              (Ece453.run Ece453.reset serial).dmxMod.dmxData := by
  refine ⟨⟨by decide, by decide, by decide, by decide, by decide⟩,
    ⟨by decide, by decide, by decide, by decide, by decide⟩,
    tornMessages_interleaving, ?_⟩
  intro schedule hreal order horder serial hserial heq
  rw [dmxData_of_realises hreal, dmxData_of_realises hserial] at heq
  have hbyte := congrFun heq 1
  rcases horder.singletons with rfl | rfl
  · revert hbyte
    decide
  · revert hbyte
    decide

end ChuckLight.DefaultDMX
