import KernelDrivers.Genetlink.Exchange
import KernelDrivers.Library.Transition

/-!
# The programs and the module together

`test_netlink_unicast` and `test_netlink_multicast` ask for the id of the family
on a socket that has joined all groups, while the module may multicast at any
time.
-/

namespace KernelDrivers.Genetlink

open KernelDrivers.Library

/-- A program, which is `test_netlink_unicast` if it sends an echo command, the
id that its family was given, and the messages of the controller. -/
structure Setup where
  echo : Bool
  pid : UInt32
  family : UInt16
  reply : Message
  refusal : Message
  assigned : genlIdCtrl < family ∧ family < 1024
  control : reply.type = genlIdCtrl
  named : firstPayload ctrlAttrFamilyId reply.attributes =
    some (le16Bytes family.toNat)
  fits : reply.size ≤ genlmsgSize bufSize

inductive Phase where
  | closed
  | opened
  | asked
  | identified (id : UInt16)
  | waiting (id : UInt16)
  | finished (text : Option (List UInt8))

/-- Where the program is, the datagrams at its socket, and the lines of the
kernel's log. -/
structure Net where
  phase : Phase
  queue : List (List UInt8)
  log : List (List UInt8)

def Net.start : Net := ⟨.closed, [], []⟩

inductive Action where
  | open
  | trigger
  | ask
  | identify
  | echo
  | receive
deriving DecidableEq

section Step

variable (setup : Setup)

/-- A datagram of the program in the kernel: the controller answers, the family
is handed its own messages, and other types are refused. -/
def kernelReceive (net : Net) (datagram : List UInt8) : Net :=
  let skb := Memory.storeList (fun _ => 0) 0 datagram
  if nlmsgType skb 0 = genlIdCtrl.toNat then
    { net with queue := net.queue ++ [setup.reply.encode] }
  else if nlmsgType skb 0 = setup.family.toNat then
    match docExmplEcho setup.family skb datagram.length with
    | none => net
    | some (line, dest, message) =>
        { net with
          queue :=
            if dest = setup.pid then net.queue ++ [message.encode]
            else net.queue
          log := net.log ++ [line] }
  else { net with queue := net.queue ++ [setup.refusal.encode] }

/-- `genlmsg_send`, with a `sendto` that takes the whole message. -/
def transmit (net : Net) (request : Request) : Net :=
  match genlmsgSend request [.sent (genlmsgSize request.nlaData.length)] with
  | none => net
  | some (_, handed) => handed.foldl (kernelReceive setup) net

def step (net : Net) : Action → Option Net
  | .open =>
      match net.phase with
      | .closed => some { net with phase := .opened, queue := [] }
      | _ => none
  | .trigger =>
      match net.phase with
      | .closed | .finished _ => some net
      | _ =>
          some { net with
            queue := net.queue ++ [(testNetlinkSend setup.family).encode] }
  | .ask =>
      match net.phase with
      | .opened =>
          some { transmit setup net getfamilyRequest with phase := .asked }
      | _ => none
  | .identify =>
      match net.phase, net.queue with
      | .asked, datagram :: queue =>
          some { net with
            phase :=
              match genlmsgGetFamilyId datagram with
              | none => .finished none
              | some id => if setup.echo then .identified id else .waiting id
            queue }
      | _, _ => none
  | .echo =>
      match net.phase with
      | .identified id =>
          some { transmit setup net (echoRequest id setup.pid) with
            phase := .waiting id }
      | _ => none
  | .receive =>
      match net.phase, net.queue with
      | .waiting id, datagram :: queue =>
          some { net with phase := .finished (printed id datagram), queue }
      | _, _ => none

end Step

section Transmit

variable {setup : Setup} {net : Net}

theorem transmit_eq {request : Request} (known : request.nlmsgType ≠ 0)
    (nonempty : request.nlaData ≠ []) :
    transmit setup net request = kernelReceive setup net request.message := by
  have sends : genlmsgSend request
      [.sent (genlmsgSize request.nlaData.length)] =
        some ((genlmsgSize request.nlaData.length : Int),
          [request.message]) := by
    rw [genlmsgSend, if_neg (by simp [known, nonempty]), sendLoop]
    simp [Request.message]
  rw [transmit, sends]
  rfl

theorem received_message (request : Request) :
    Received request (Memory.storeList (fun _ => 0) 0 request.message) :=
  received_of_bytes (Memory.bytes_storeList _)

theorem nlmsgType_message (request : Request) :
    nlmsgType (Memory.storeList (fun _ => 0) 0 request.message) 0 =
      request.nlmsgType.toNat := by
  have size := genlmsgSize_eq request.nlaData.length
  rw [nlmsgType, (received_message request).u16At
    (by simp only [nlmsgHdrlen] at size; omega)]
  exact build_nlmsgType request

theorem transmit_getfamily :
    transmit setup net getfamilyRequest =
      { net with queue := net.queue ++ [setup.reply.encode] } := by
  have known : getfamilyRequest.nlmsgType ≠ 0 := by decide
  have nonempty : getfamilyRequest.nlaData ≠ [] := by decide
  rw [transmit_eq known nonempty, kernelReceive]
  simp only [nlmsgType_message]
  exact if_pos rfl

/-- The family's own message is logged and answered; any other one that is not
the controller's is refused. -/
theorem transmit_echo {id : UInt16} (known : id ≠ 0) (other : id ≠ genlIdCtrl) :
    transmit setup net (echoRequest id setup.pid) =
      if id = setup.family then
        { net with
          queue := net.queue ++
            [(genlMsgSendToUser setup.family setup.pid).encode]
          log := net.log ++ [messageToKernel] }
      else { net with queue := net.queue ++ [setup.refusal.encode] } := by
  have nonempty : (echoRequest id setup.pid).nlaData ≠ [] := by
    simp [echoRequest]
  have notCtrl : ¬(echoRequest id setup.pid).nlmsgType.toNat =
      genlIdCtrl.toNat :=
    fun same => other (UInt16.toNat_inj.mp same)
  rw [transmit_eq known nonempty, kernelReceive]
  simp only [nlmsgType_message, if_neg notCtrl]
  by_cases own : id = setup.family
  · have same : (echoRequest id setup.pid).nlmsgType.toNat =
        setup.family.toNat := congrArg UInt16.toNat own
    rw [if_pos same, if_pos own,
      docExmplEcho_request (received_message _) setup.family]
    simp
  · have differ : ¬(echoRequest id setup.pid).nlmsgType.toNat =
        setup.family.toNat := fun same => own (UInt16.toNat_inj.mp same)
    rw [if_neg differ, if_neg own]

end Transmit

section Progress

variable (setup : Setup)

/-- A datagram with the text of the module. -/
def IsText (datagram : List UInt8) : Prop :=
  ∃ pid, datagram = (textMessage setup.family pid).encode

/-- The actions between the `open` and the `ask` of the program. -/
def AskedAfter (between actions : List Action) : Prop :=
  ∃ before after, actions = before ++ .open :: between ++ .ask :: after

/-- Without a trigger in between, the id is that of the family.  A text that was
triggered is taken for the answer, and the answer or another text is next. -/
def Identified (between : List Action) (id : UInt16)
    (queue : List (List UInt8)) : Prop :=
  (.trigger ∉ between ∧ id = setup.family ∧ ∀ datagram ∈ queue,
      IsText setup datagram) ∨
    (.trigger ∈ between ∧ id = 0x6548 ∧ ∃ first rest, queue = first :: rest ∧
      (IsText setup first ∨ first = setup.reply.encode))

/-- `genlmsg_get_family_id` has received a datagram and got an id from it: its
own from the answer of the controller, if nothing was triggered before the
question, and else 0x6548 from a text, which it takes for the answer. -/
def GotId (between actions : List Action) (id : UInt16) : Prop :=
  ∃ earlier later net datagram queue, actions = earlier ++ .identify :: later ∧
    Run (step setup) (fun _ _ => True) .start earlier net ∧
    net.phase = .asked ∧ net.queue = datagram :: queue ∧
    genlmsgGetFamilyId datagram = some id ∧
    (.trigger ∉ between ∧ datagram = setup.reply.encode ∧ id = setup.family ∨
      .trigger ∈ between ∧ IsText setup datagram ∧ id = 0x6548)

/-- The lines of the log when the program has sent what it sends. -/
def logged (between : List Action) : List (List UInt8) :=
  if setup.echo = true ∧ .trigger ∉ between then [messageToKernel] else []

def Progress (actions : List Action) (net : Net) : Prop :=
  match net.phase with
  | .closed => net.log = []
  | .opened =>
      ∃ before between, actions = before ++ .open :: between ∧ net.log = [] ∧
        (∀ datagram ∈ net.queue, IsText setup datagram) ∧
        (net.queue = [] ↔ .trigger ∉ between)
  | .asked =>
      ∃ between early late, AskedAfter between actions ∧ net.log = [] ∧
        net.queue = early ++ setup.reply.encode :: late ∧
        (∀ datagram ∈ early ++ late, IsText setup datagram) ∧
        (early = [] ↔ .trigger ∉ between)
  | .identified id =>
      ∃ between, AskedAfter between actions ∧ GotId setup between actions id ∧
        net.log = [] ∧ setup.echo = true ∧
        Identified setup between id net.queue
  | .waiting id =>
      ∃ between, AskedAfter between actions ∧ GotId setup between actions id ∧
        net.log = logged setup between ∧ Identified setup between id net.queue
  | .finished text =>
      ∃ between id, AskedAfter between actions ∧
        GotId setup between actions id ∧ net.log = logged setup between ∧
        (text = some testGenlMsgFromKernel ↔ .trigger ∉ between) ∧
        (text = none ↔ .trigger ∈ between)

end Progress

section Facts

variable {setup : Setup} {between actions : List Action} {action : Action}
  {id : UInt16} {queue : List (List UInt8)} {datagram : List UInt8}

theorem AskedAfter.snoc (asked : AskedAfter between actions)
    (action : Action) : AskedAfter between (actions ++ [action]) := by
  obtain ⟨before, after, rfl⟩ := asked
  exact ⟨before, after ++ [action], by simp⟩

theorem GotId.snoc (got : GotId setup between actions id) (action : Action) :
    GotId setup between (actions ++ [action]) id := by
  obtain ⟨earlier, later, net, datagram, queue, rfl, rest⟩ := got
  exact ⟨earlier, later ++ [action], net, datagram, queue, by simp, rest⟩

theorem Setup.goesOn (setup : Setup) (pid : UInt32) :
    (textMessage setup.family pid).ends = false := by
  obtain ⟨large, -⟩ := setup.assigned
  have size : 16 < setup.family.toNat := UInt16.lt_iff_toNat_lt.mp large
  have type : (textMessage setup.family pid).type = setup.family := rfl
  apply Message.goesOn
  · rw [type]
    simp only [nlmsgDone]
    omega
  · rw [type]
    simp only [nlmsgError]
    omega

theorem isText_trigger : IsText setup (testNetlinkSend setup.family).encode :=
  ⟨0, rfl⟩

theorem IsText.genlmsgGetFamilyId (text : IsText setup datagram) :
    genlmsgGetFamilyId datagram = some 0x6548 := by
  obtain ⟨pid, rfl⟩ := text
  exact genlmsgGetFamilyId_text (setup.goesOn pid)

theorem Setup.genlmsgGetFamilyId (setup : Setup) :
    Genetlink.genlmsgGetFamilyId setup.reply.encode = some setup.family := by
  obtain ⟨large, -⟩ := setup.assigned
  have size : 16 < setup.family.toNat := UInt16.lt_iff_toNat_lt.mp large
  have positive : 0 < setup.family :=
    UInt16.lt_iff_toNat_lt.mpr (Nat.zero_lt_of_lt size)
  have goesOn : setup.reply.ends = false := by
    apply Message.goesOn <;> rw [setup.control] <;> decide
  exact genlmsgGetFamilyId_reply setup.fits goesOn setup.named positive

theorem Setup.family_ne (setup : Setup) : (0x6548 : UInt16) ≠ setup.family := by
  intro same
  have small := setup.assigned.2
  rw [← same] at small
  exact absurd small (by decide)

theorem Identified.snoc (identified : Identified setup between id queue)
    (text : IsText setup datagram) :
    Identified setup between id (queue ++ [datagram]) := by
  cases identified with
  | inl own =>
      obtain ⟨none, same, texts⟩ := own
      refine .inl ⟨none, same, ?_⟩
      intro other member
      rw [List.mem_append, List.mem_singleton] at member
      exact member.elim (texts other) fun last => last ▸ text
  | inr foreign =>
      obtain ⟨some, wrong, first, rest, rfl, next⟩ := foreign
      exact .inr ⟨some, wrong, first, rest ++ [datagram], rfl, next⟩

/-- The datagram that is received last is printed if the id is right. -/
theorem Identified.printed
    (identified : Identified setup between id (datagram :: queue)) :
    (Genetlink.printed id datagram = some testGenlMsgFromKernel ↔
        .trigger ∉ between) ∧
      (Genetlink.printed id datagram = none ↔ .trigger ∈ between) := by
  cases identified with
  | inl own =>
      obtain ⟨none, rfl, texts⟩ := own
      obtain ⟨pid, rfl⟩ := texts datagram List.mem_cons_self
      rw [printed_text (setup.goesOn pid)]
      simp [none]
  | inr foreign =>
      obtain ⟨some, rfl, first, rest, shape, next⟩ := foreign
      cases shape
      have nothing : Genetlink.printed 0x6548 datagram = none := by
        cases next with
        | inl text =>
            obtain ⟨pid, rfl⟩ := text
            exact printed_other textMessage_fits (by decide) setup.family_ne
        | inr answer =>
            rw [answer]
            refine printed_other setup.fits (by decide) ?_
            rw [setup.control]
            decide
      rw [nothing]
      simp [some]

end Facts

section Runs

variable {setup : Setup} {actions : List Action} {net next : Net}

theorem progress_open (progress : Progress setup actions net)
    (taken : step setup net .open = some next) :
    Progress setup (actions ++ [.open]) next := by
  obtain ⟨phase, queue, log⟩ := net
  cases phase with
  | closed =>
      cases taken
      refine ⟨actions, [], rfl, progress, ?_, ?_⟩
      · intro datagram member
        cases member
      · simp
  | _ => cases taken

theorem progress_trigger (progress : Progress setup actions net)
    (taken : step setup net .trigger = some next) :
    Progress setup (actions ++ [.trigger]) next := by
  obtain ⟨phase, queue, log⟩ := net
  cases phase with
  | closed =>
      cases taken
      exact progress
  | opened =>
      cases taken
      obtain ⟨before, between, rfl, quiet, texts, -⟩ := progress
      refine ⟨before, between ++ [.trigger], by simp, quiet, ?_, by simp⟩
      intro datagram member
      rw [List.mem_append, List.mem_singleton] at member
      exact member.elim (texts datagram) fun last => last ▸ isText_trigger
  | asked =>
      cases taken
      obtain ⟨between, early, late, asked, quiet, shape, texts, first⟩ :=
        progress
      dsimp only at shape
      refine ⟨between, early, late ++ [(testNetlinkSend setup.family).encode],
        asked.snoc _, quiet, by simp [shape], ?_, first⟩
      intro datagram member
      rw [← List.append_assoc, List.mem_append, List.mem_singleton] at member
      exact member.elim (texts datagram) fun last => last ▸ isText_trigger
  | identified id =>
      cases taken
      obtain ⟨between, asked, got, quiet, echoes, identified⟩ := progress
      exact ⟨between, asked.snoc _, got.snoc _, quiet, echoes,
        identified.snoc isText_trigger⟩
  | waiting id =>
      cases taken
      obtain ⟨between, asked, got, lines, identified⟩ := progress
      exact ⟨between, asked.snoc _, got.snoc _, lines,
        identified.snoc isText_trigger⟩
  | finished text =>
      cases taken
      obtain ⟨between, id, asked, got, rest⟩ := progress
      exact ⟨between, id, asked.snoc _, got.snoc _, rest⟩

theorem progress_ask (progress : Progress setup actions net)
    (taken : step setup net .ask = some next) :
    Progress setup (actions ++ [.ask]) next := by
  obtain ⟨phase, queue, log⟩ := net
  cases phase with
  | opened =>
      simp only [step, transmit_getfamily] at taken
      cases taken
      obtain ⟨before, between, rfl, quiet, texts, none⟩ := progress
      refine ⟨between, queue, [], ⟨before, [], by simp⟩, quiet, rfl, ?_, none⟩
      rw [List.append_nil]
      exact texts
  | _ => cases taken

/-- The first datagram is the answer exactly if nothing was triggered. -/
theorem progress_identify
    (run : Run (step setup) (fun _ _ => True) .start actions net)
    (progress : Progress setup actions net)
    (taken : step setup net .identify = some next) :
    Progress setup (actions ++ [.identify]) next := by
  obtain ⟨phase, queue, log⟩ := net
  cases phase with
  | asked =>
      obtain ⟨between, early, late, asked, quiet, shape, texts, first⟩ :=
        progress
      dsimp only at shape quiet
      have answered := asked.snoc .identify
      have identified : ∃ id datagram rest, queue = datagram :: rest ∧
          genlmsgGetFamilyId datagram = some id ∧
          (.trigger ∉ between ∧ datagram = setup.reply.encode ∧
              id = setup.family ∨
            .trigger ∈ between ∧ IsText setup datagram ∧ id = 0x6548) ∧
          Identified setup between id rest := by
        cases early with
        | nil =>
            have none := first.mp rfl
            exact ⟨setup.family, _, late, shape, setup.genlmsgGetFamilyId,
              .inl ⟨none, rfl, rfl⟩, .inl ⟨none, rfl, texts⟩⟩
        | cons datagram early =>
            have triggered : .trigger ∈ between := by
              by_contra none
              exact absurd (first.mpr none) (List.cons_ne_nil _ _)
            have text := texts datagram List.mem_cons_self
            refine ⟨0x6548, datagram, _, shape, text.genlmsgGetFamilyId,
              .inr ⟨triggered, text, rfl⟩, .inr ⟨triggered, rfl, ?_⟩⟩
            cases early with
            | nil => exact ⟨_, _, rfl, .inr rfl⟩
            | cons other early =>
                have member : other ∈ datagram :: other :: early ++ late := by
                  simp
                exact ⟨_, _, rfl, .inl (texts other member)⟩
      obtain ⟨id, datagram, rest, rfl, gets, source, identified⟩ := identified
      have got : GotId setup between (actions ++ [.identify]) id :=
        ⟨actions, [], _, datagram, rest, rfl, run, rfl, rfl, gets, source⟩
      simp only [step, gets] at taken
      cases taken
      cases echoes : setup.echo with
      | true => exact ⟨between, answered, got, quiet, echoes, identified⟩
      | false =>
          have silent : logged setup between = [] := if_neg (by simp [echoes])
          exact ⟨between, answered, got, quiet.trans silent.symm, identified⟩
  | _ => cases taken

theorem progress_echo (progress : Progress setup actions net)
    (taken : step setup net .echo = some next) :
    Progress setup (actions ++ [.echo]) next := by
  obtain ⟨phase, queue, log⟩ := net
  cases phase with
  | identified id =>
      obtain ⟨between, asked, got, quiet, echoes, identified⟩ := progress
      dsimp only at quiet identified
      have answered := asked.snoc .echo
      have kept := got.snoc .echo
      cases identified with
      | inl own =>
          obtain ⟨none, rfl, texts⟩ := own
          have large : 16 < setup.family.toNat :=
            UInt16.lt_iff_toNat_lt.mp setup.assigned.1
          have known : setup.family ≠ 0 := by
            intro zero
            rw [zero] at large
            exact absurd large (by decide)
          have other : setup.family ≠ genlIdCtrl := by
            intro same
            rw [same] at large
            exact absurd large (by decide)
          simp only [step, transmit_echo known other, if_true] at taken
          cases taken
          refine ⟨between, answered, kept, ?_, .inl ⟨none, rfl, ?_⟩⟩
          · rw [logged, if_pos ⟨echoes, none⟩]
            simp [quiet]
          · intro datagram member
            rw [List.mem_append, List.mem_singleton] at member
            exact member.elim (texts datagram) fun last => ⟨_, last⟩
      | inr foreign =>
          obtain ⟨some, rfl, first, rest, rfl, next⟩ := foreign
          have known : (0x6548 : UInt16) ≠ 0 := by decide
          have other : (0x6548 : UInt16) ≠ genlIdCtrl := by decide
          simp only [step, transmit_echo known other, if_neg setup.family_ne]
            at taken
          cases taken
          refine ⟨between, answered, kept, ?_,
            .inr ⟨some, rfl, first, _, rfl, next⟩⟩
          rw [logged, if_neg (by simp [some])]
          exact quiet
  | _ => cases taken

theorem progress_receive (progress : Progress setup actions net)
    (taken : step setup net .receive = some next) :
    Progress setup (actions ++ [.receive]) next := by
  obtain ⟨phase, queue, log⟩ := net
  cases phase with
  | waiting id =>
      obtain ⟨between, asked, got, lines, identified⟩ := progress
      cases queue with
      | nil => cases taken
      | cons datagram queue =>
          cases taken
          exact ⟨between, id, asked.snoc _, got.snoc _, lines,
            identified.printed⟩
  | _ => cases taken

theorem progress_step {action : Action}
    (run : Run (step setup) (fun _ _ => True) .start actions net)
    (progress : Progress setup actions net)
    (taken : step setup net action = some next) :
    Progress setup (actions ++ [action]) next := by
  cases action with
  | «open» => exact progress_open progress taken
  | trigger => exact progress_trigger progress taken
  | ask => exact progress_ask progress taken
  | identify => exact progress_identify run progress taken
  | echo => exact progress_echo progress taken
  | receive => exact progress_receive progress taken

theorem progress_run
    (run : Run (step setup) (fun _ _ => True) .start actions net) :
    Progress setup actions net := by
  induction run with
  | nil => rfl
  | snoc run _ taken induction => exact progress_step run induction taken

/-- A program that has ended has printed the text of the module, and has been
heard by it if it sends an echo, exactly if nothing was multicast between the
opening of its socket and its question; otherwise it has taken a text for the
answer, and 0x6548 for its id. -/
theorem prints_iff {text : Option (List UInt8)}
    (run : Run (step setup) (fun _ _ => True) .start actions net)
    (finished : net.phase = .finished text) :
    ∃ between id, AskedAfter between actions ∧
      GotId setup between actions id ∧ net.log = logged setup between ∧
      (text = some testGenlMsgFromKernel ↔ .trigger ∉ between) ∧
      (text = none ↔ .trigger ∈ between) := by
  have progress := progress_run run
  rw [Progress, finished] at progress
  exact progress

end Runs

/-- The family has the id 25, and the answer its name and its id. -/
private def family25 : Setup where
  echo := true
  pid := 4711
  family := 25
  reply :=
    { type := 16
      flags := 0
      seq := 0
      pid := 4711
      content := .genl 1 2 0
        [⟨2, familyName ++ [0], [0, 0], by decide, by decide⟩,
          ⟨1, [25, 0], [0, 0], by decide, by decide⟩]
      known := by
        intro data control
        cases control }
  refusal := textMessage 2 0
  assigned := by decide
  control := rfl
  named := by decide
  fits := by decide

private theorem family25_overtaken :
    ∃ net, Run (step family25) (fun _ _ => True) .start
      [.open, .trigger, .ask, .identify, .echo, .receive] net ∧
        net.phase = .finished none := by
  have text := @isText_trigger family25
  have ask : step family25 ⟨.opened, [(testNetlinkSend 25).encode], []⟩ .ask =
      some ⟨.asked, [(testNetlinkSend 25).encode, family25.reply.encode],
        []⟩ := by
    simp only [step, transmit_getfamily]
    rfl
  have identify : step family25
      ⟨.asked, [(testNetlinkSend 25).encode, family25.reply.encode], []⟩
        .identify =
      some ⟨.identified 0x6548, [family25.reply.encode], []⟩ := by
    have id : genlmsgGetFamilyId (testNetlinkSend 25).encode = some 0x6548 :=
      text.genlmsgGetFamilyId
    simp only [step, id]
    rfl
  have echo : step family25
      ⟨.identified 0x6548, [family25.reply.encode], []⟩ .echo =
      some ⟨.waiting 0x6548,
        [family25.reply.encode, family25.refusal.encode], []⟩ := by
    simp only [step, transmit_echo (by decide : (0x6548 : UInt16) ≠ 0)
      (by decide : (0x6548 : UInt16) ≠ genlIdCtrl), if_neg family25.family_ne]
    rfl
  have nothing : printed 0x6548 family25.reply.encode = none :=
    printed_other family25.fits (by decide) (by decide)
  have receive : step family25 ⟨.waiting 0x6548,
      [family25.reply.encode, family25.refusal.encode], []⟩ .receive =
      some ⟨.finished none, [family25.refusal.encode], []⟩ := by
    simp only [step, nothing]
  exact ⟨_, .snoc (.snoc (.snoc (.snoc (.snoc (.snoc .nil trivial rfl) trivial
    rfl) trivial ask) trivial identify) trivial echo) trivial receive, rfl⟩

/-- A text that comes in front of the answer is taken for it. -/
theorem prints_iff_overtaken :
    ∃ net : Net, net.phase = .finished none ∧ ∃ between id,
      AskedAfter between [.open, .trigger, .ask, .identify, .echo, .receive] ∧
      GotId family25 between
        [.open, .trigger, .ask, .identify, .echo, .receive] id ∧
      net.log = logged family25 between ∧
      ((none : Option (List UInt8)) = some testGenlMsgFromKernel ↔
        .trigger ∉ between) ∧
      ((none : Option (List UInt8)) = none ↔ .trigger ∈ between) := by
  obtain ⟨net, run, finished⟩ := family25_overtaken
  exact ⟨net, finished, prints_iff run finished⟩

end KernelDrivers.Genetlink
