import KernelDrivers.Library.Memory

/-!
# Domain name messages

The message format of RFC 1035: the header, names as labels, a question, and
resource records whose owner is a compression pointer.
-/

namespace KernelDrivers.Library.Dns

abbrev Label := List UInt8

abbrev dot : UInt8 := 46

def LabelValid (label : Label) : Prop :=
  (1 ≤ label.length ∧ label.length ≤ 63) ∧
    ∀ byte ∈ label, byte ≠ dot ∧ byte ≠ 0

instance (label : Label) : Decidable (LabelValid label) :=
  have := List.decidableBAll (fun byte => byte ≠ dot ∧ byte ≠ 0) label
  instDecidableAnd

/-- A host name, which may be written with a dot at its end. -/
structure HostName where
  labels : List Label
  rooted : Bool
  nonempty : labels ≠ []
  valid : ∀ label ∈ labels, LabelValid label
  short : ([dot].intercalate labels).length ≤ 253

def HostName.text (name : HostName) : List UInt8 :=
  [dot].intercalate name.labels ++ if name.rooted then [dot] else []

def encodeLabels (labels : List Label) : List UInt8 :=
  labels.flatMap fun label => .ofNat label.length :: label

/-- The labels up to the empty one, and what follows it. -/
def decodeLabels : Nat → List UInt8 → Option (List Label × List UInt8)
  | _, [] => none
  | 0, _ => none
  | fuel + 1, length :: rest =>
      if length = 0 then some ([], rest)
      else if length.toNat ≤ 63 ∧ length.toNat ≤ rest.length then
        (decodeLabels fuel (rest.drop length.toNat)).map fun decoded =>
          (rest.take length.toNat :: decoded.1, decoded.2)
      else none

/-- A name takes at most 255 bytes of the message. -/
def decodeName (bytes : List UInt8) : Option (List Label × List UInt8) :=
  (decodeLabels bytes.length bytes).filter fun decoded =>
    bytes.length ≤ decoded.2.length + 255

section Labels

variable {label : Label} {labels : List Label}

theorem LabelValid.toNat_length (valid : LabelValid label) :
    (UInt8.ofNat label.length).toNat = label.length :=
  UInt8.toNat_ofNat_of_lt' (Nat.lt_of_le_of_lt valid.1.2 (by decide))

theorem LabelValid.length_ne_zero (valid : LabelValid label) :
    UInt8.ofNat label.length ≠ 0 := by
  intro zero
  have length := valid.toNat_length
  rw [zero] at length
  exact Nat.ne_of_lt valid.1.1 length

theorem encodeLabels_cons :
    encodeLabels (label :: labels) =
      .ofNat label.length :: (label ++ encodeLabels labels) := by
  simp [encodeLabels]

theorem length_encodeLabels (nonempty : labels ≠ []) :
    (encodeLabels labels).length =
      ([dot].intercalate labels).length + 1 := by
  induction labels with
  | nil => exact absurd rfl nonempty
  | cons label labels induction =>
      rw [encodeLabels_cons]
      cases labels with
      | nil => simp [encodeLabels]
      | cons next labels =>
          rw [List.intercalate_cons_cons]
          simp only [List.length_cons, List.length_append, induction,
            ne_eq, reduceCtorEq, not_false_eq_true, List.length_nil]
          omega

theorem encodeLabels_ne_zero (valid : ∀ label ∈ labels, LabelValid label) :
    ∀ byte ∈ encodeLabels labels, byte ≠ 0 := by
  intro byte member
  obtain ⟨label, inLabels, inside⟩ := List.mem_flatMap.mp member
  cases List.mem_cons.mp inside with
  | inl length =>
      subst length
      exact (valid label inLabels).length_ne_zero
  | inr inLabel => exact ((valid label inLabels).2 byte inLabel).2

theorem decodeLabels_label (valid : LabelValid label) (fuel : Nat)
    (rest : List UInt8) :
    decodeLabels (fuel + 1) (.ofNat label.length :: (label ++ rest)) =
      (decodeLabels fuel rest).map fun decoded =>
        (label :: decoded.1, decoded.2) := by
  have fits : label.length ≤ 63 ∧ label.length ≤ (label ++ rest).length :=
    ⟨valid.1.2, by simp⟩
  rw [decodeLabels, if_neg valid.length_ne_zero, valid.toNat_length,
    if_pos fits, List.drop_left, List.take_left]

theorem decodeLabels_encodeLabels
    (valid : ∀ label ∈ labels, LabelValid label) (rest : List UInt8)
    {fuel : Nat} (enough : labels.length < fuel) :
    decodeLabels fuel (encodeLabels labels ++ 0 :: rest) =
      some (labels, rest) := by
  obtain ⟨fuel, rfl⟩ :=
    Nat.exists_eq_succ_of_ne_zero (Nat.ne_zero_of_lt enough)
  induction labels generalizing fuel with
  | nil => rfl
  | cons label labels induction =>
      obtain ⟨fuel, rfl⟩ := Nat.exists_eq_succ_of_ne_zero
        (Nat.ne_zero_of_lt (Nat.lt_of_succ_lt_succ enough))
      have later := induction
        (fun label member => valid label (List.mem_cons_of_mem _ member))
        fuel (Nat.lt_of_succ_lt_succ enough)
      rw [encodeLabels_cons, List.cons_append, List.append_assoc,
        Nat.succ_eq_add_one, decodeLabels_label
          (valid label List.mem_cons_self), later]
      rfl

theorem length_le_encodeLabels :
    labels.length ≤ (encodeLabels labels).length := by
  induction labels with
  | nil => exact Nat.zero_le _
  | cons label labels induction =>
      rw [encodeLabels_cons]
      simp only [List.length_cons, List.length_append]
      omega

end Labels

theorem HostName.length_encodeLabels (name : HostName) :
    (encodeLabels name.labels).length ≤ 254 := by
  rw [Dns.length_encodeLabels name.nonempty]
  exact Nat.succ_le_succ name.short

theorem decodeName_encodeLabels (name : HostName) (rest : List UInt8) :
    decodeName (encodeLabels name.labels ++ 0 :: rest) =
      some (name.labels, rest) := by
  have count := @length_le_encodeLabels name.labels
  have short := name.length_encodeLabels
  have enough : name.labels.length <
      (encodeLabels name.labels ++ 0 :: rest).length := by
    simp only [List.length_append, List.length_cons]
    omega
  rw [decodeName, decodeLabels_encodeLabels name.valid rest enough]
  refine if_pos (decide_eq_true ?_)
  simp only [List.length_append, List.length_cons]
  omega

structure Header where
  id : Nat
  flags : Nat
  questions : Nat
  answers : Nat
  authority : Nat
  additional : Nat
deriving DecidableEq

/-- RD. -/
def Header.recursionDesired (header : Header) : Bool :=
  header.flags.testBit 8

def decodeHeader : List UInt8 → Option (Header × List UInt8)
  | b0 :: b1 :: b2 :: b3 :: b4 :: b5 :: b6 :: b7 :: b8 :: b9 :: b10 :: b11 ::
      rest =>
      some ({ id := be16 b0 b1, flags := be16 b2 b3, questions := be16 b4 b5,
              answers := be16 b6 b7, authority := be16 b8 b9,
              additional := be16 b10 b11 }, rest)
  | _ => none

structure Question where
  labels : List Label
  qtype : Nat
  qclass : Nat
deriving DecidableEq

def decodeQuestion (bytes : List UInt8) : Option (Question × List UInt8) :=
  match decodeName bytes with
  | some (labels, t0 :: t1 :: c0 :: c1 :: rest) =>
      some ({ labels, qtype := be16 t0 t1, qclass := be16 c0 c1 }, rest)
  | _ => none

/-- A header and a question with nothing after them. -/
def decodeQuery (bytes : List UInt8) : Option (Header × Question) :=
  match decodeHeader bytes with
  | none => none
  | some (header, body) =>
      match decodeQuestion body with
      | some (question, []) => some (header, question)
      | _ => none

abbrev typeA : Nat := 1
abbrev classIN : Nat := 1

/-- A resource record whose owner is a pointer. -/
structure Record where
  owner : UInt16
  type : UInt16
  cls : UInt16
  ttl : UInt32
  rdata : List UInt8
  pointer : 0xc000 ≤ owner.toNat
  short : rdata.length < 65536

def be32Bytes (value : Nat) : List UInt8 :=
  be16Bytes (value / 65536) ++ be16Bytes value

def Record.fixed (record : Record) : List UInt8 :=
  be16Bytes record.owner.toNat ++ be16Bytes record.type.toNat ++
    be16Bytes record.cls.toNat ++ be32Bytes record.ttl.toNat ++
    be16Bytes record.rdata.length

def Record.encode (record : Record) : List UInt8 :=
  record.fixed ++ record.rdata

def encodeRecords (records : List Record) : List UInt8 :=
  records.flatMap Record.encode

/-- A response to one question.  The sections after the answers are not looked
into. -/
structure Response where
  id : UInt16
  flags : UInt16
  question : HostName
  answers : List Record
  authorityCount : UInt16
  additionalCount : UInt16
  sections : List UInt8

def encodeQuestion (name : HostName) : List UInt8 :=
  encodeLabels name.labels ++ [0] ++ be16Bytes typeA ++ be16Bytes classIN

def Response.header (response : Response) : List UInt8 :=
  be16Bytes response.id.toNat ++ be16Bytes response.flags.toNat ++
    be16Bytes 1 ++ be16Bytes response.answers.length ++
    be16Bytes response.authorityCount.toNat ++
    be16Bytes response.additionalCount.toNat

def Response.encode (response : Response) : List UInt8 :=
  response.header ++ encodeQuestion response.question ++
    encodeRecords response.answers ++ response.sections

/-- An address of the internet takes four bytes. -/
def Response.WellFormed (response : Response) : Prop :=
  ∀ record ∈ response.answers, record.type.toNat = typeA →
    record.cls.toNat = classIN ∧ record.rdata.length = 4

instance (response : Response) : Decidable response.WellFormed :=
  inferInstanceAs (Decidable (∀ record ∈ response.answers, _))

end KernelDrivers.Library.Dns
