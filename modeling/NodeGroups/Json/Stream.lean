import NodeGroups.Json.Decode
import NodeGroups.Json.Parser

namespace NodeGroups.Json

theorem Reading.run_length {r : Reading} {s : State} {ts rest : List Token} {v : Json}
    (h : r.run s ts = some (v, rest)) : rest.length < ts.length := by
  induction ts generalizing s with
  | nil => simp [Reading.run] at h
  | cons t ts ih =>
    unfold Reading.run at h
    split at h
    · cases h
    · cases h; simp
    · have := ih h
      simp only [List.length_cons]; omega

/-- Why a text does not hold the wanted record. -/
inductive TextError
  | malformed
  | unfit (error : DecodeError)

def TextError.message : TextError → String
  | malformed => "<json syntax>"
  | unfit error => error.message

/-- Reads a value from the front of the tokens, so that the first fault of the text is the one
reported. -/
structure Reader where
  read : List Token → Except TextError (Json × List Token)
  shorter : ∀ {ts v rest}, read ts = .ok (v, rest) → rest.length < ts.length

namespace Reader

/-- The value a token holds; a container is taken for empty. -/
def begins? : Token → Option Json
  | .openObject => some (.obj [])
  | .openArray => some (.arr [])
  | .null => some .null
  | .bool b => some (.bool b)
  | .num n => n.map .num
  | .str s => s.map .str
  | _ => none

/-- Reads the first token as a scalar that passes the check. No check passes a container. -/
def readScalar (check : Decode.Check) : List Token → Except TextError (Json × List Token)
  | [] => .error .malformed
  | t :: ts =>
    match begins? t with
    | none => .error .malformed
    | some v =>
      match check v with
      | .error e => .error (.unfit e)
      | .ok () => .ok (v, ts)

def scalar (check : Decode.Check) : Reader where
  read := readScalar check
  shorter := by
    intro ts v rest h
    unfold readScalar at h
    split at h
    · cases h
    · split at h
      · cases h
      · split at h
        · cases h
        · cases h; simp

/-- Null is let through too. -/
def optional (item : Reader) : Reader where
  read
    | .null :: ts => .ok (.null, ts)
    | ts => item.read ts
  shorter := by
    intro ts v rest h
    split at h
    · cases h; simp
    · exact item.shorter h

/-- A record whose fields are read in the order of the text. -/
structure Record where
  name : String
  fields : List (String × Reader)
  /-- Decides, once all is read, whether what was found suffices. -/
  finish : Json → Decode.Result Unit

def close (r : Record) (v : Json) (ts : List Token) : Except TextError (Json × List Token) :=
  match r.finish v with
  | .error e => .error (.unfit e)
  | .ok () => .ok (v, ts)

/-- Reads the items of an array as the fields in order; the items so far stand last first. -/
def readItems (r : Record) (items : List Json) :
    List (String × Reader) → List Token → Except TextError (Json × List Token)
  | _, .closeArray :: ts => close r (.arr items.reverse) ts
  | [], _ => .error .malformed
  | f :: fields, ts =>
    let start := if items.isEmpty then some ts else
      match ts with
      | .comma :: ts => some ts
      | _ => none
    match start with
    | none => .error .malformed
    | some ts =>
      match f.2.read ts with
      | .error e => .error e
      | .ok (v, rest) => readItems r (v :: items) fields rest

/-- The value of a member: of a field by its reader, of anything else by passing over it. -/
def readMember (r : Record) (key : String) (ts : List Token) :
    Except TextError (Option Json × List Token) :=
  match r.fields.lookup key with
  | some field => (field.read ts).map fun p => (some p.1, p.2)
  | none =>
    match Reading.skim.run (.value []) ts with
    | none => .error .malformed
    | some (_, rest) => .ok (none, rest)

theorem readMember_length {r : Record} {key : String} {ts rest : List Token} {v : Option Json}
    (h : readMember r key ts = .ok (v, rest)) : rest.length < ts.length := by
  unfold readMember at h
  split at h
  · next field _ =>
    cases hf : field.read ts with
    | error e => simp [hf, Except.map] at h
    | ok p =>
      simp only [hf, Except.map, Except.ok.injEq, Prod.mk.injEq] at h
      obtain ⟨_, rfl⟩ := h
      exact field.shorter hf
  · split at h
    · cases h
    · next hs => cases h; exact Reading.run_length hs

/-- Reads members from a key on. A field that comes a second time is refused before its value. -/
def readMembers (r : Record) (members : List (String × Json)) (ts : List Token) :
    Except TextError (Json × List Token) :=
  match ts with
  | .str (some key) :: more =>
    if (members.lookup key).isSome then .error (.unfit (.duplicateField key))
    else
      match more with
      | .colon :: value =>
        match _h : readMember r key value with
        | .error e => .error e
        | .ok (v, rest) =>
          let members := match v with
            | some v => insertMember key v members
            | none => members
          match rest with
          | .comma :: next => readMembers r members next
          | .closeObject :: after => close r (.obj members) after
          | _ => .error .malformed
      | _ => .error .malformed
  | _ => .error .malformed
termination_by ts.length
decreasing_by
  have := readMember_length _h
  simp only [List.length_cons] at *
  omega

/-- Reads a record from an object, or from an array that holds its fields in order. -/
def readRecord (r : Record) : List Token → Except TextError (Json × List Token)
  | .openObject :: .closeObject :: ts => close r (.obj []) ts
  | .openObject :: ts => readMembers r [] ts
  | .openArray :: ts => readItems r [] r.fields ts
  | ts => readScalar (fun v => .error (.invalidType v ("struct " ++ r.name))) ts

theorem close_length {r : Record} {v w : Json} {ts rest : List Token}
    (h : close r v ts = .ok (w, rest)) : rest = ts := by
  unfold close at h
  split at h <;> cases h
  rfl

theorem readItems_length {r : Record} {items : List Json} {fields : List (String × Reader)}
    {ts rest : List Token} {v : Json} (h : readItems r items fields ts = .ok (v, rest)) :
    rest.length < ts.length := by
  induction fields generalizing items ts with
  | nil =>
    unfold readItems at h
    split at h
    · rw [close_length h]; simp
    · cases h
    · contradiction
  | cons f fields ih =>
    unfold readItems at h
    split at h
    · rw [close_length h]; simp
    · contradiction
    · rename_i tokens _ _ _ _ heq _
      obtain ⟨rfl, rfl⟩ := List.cons.inj heq
      simp only at h
      split at h
      · cases h
      · next ts' hs =>
        have hle : ts'.length ≤ tokens.length := by
          split at hs
          · cases hs; exact Nat.le_refl _
          · split at hs <;> cases hs
            simp
        split at h
        · cases h
        · next hr =>
          have := f.2.shorter hr
          have := ih h
          omega

theorem readMembers_length {r : Record} {members : List (String × Json)} {ts rest : List Token}
    {v : Json} (h : readMembers r members ts = .ok (v, rest)) : rest.length < ts.length := by
  fun_induction readMembers r members ts
  all_goals try contradiction
  · next hm _ _ ih =>
    have := readMember_length hm
    have := ih h
    simp only [List.length_cons] at *
    omega
  · next hm _ _ =>
    have := readMember_length hm
    rw [close_length h]
    simp only [List.length_cons] at *
    omega

def record (r : Record) : Reader where
  read := readRecord r
  shorter := by
    intro ts v rest h
    unfold readRecord at h
    split at h
    · rw [close_length h]
      simp only [List.length_cons]
      omega
    · have := readMembers_length h
      simp only [List.length_cons]; omega
    · have := readItems_length h
      simp only [List.length_cons]; omega
    · exact (scalar fun v => .error (.invalidType v ("struct " ++ r.name))).shorter h

def readText (reader : Reader) (text : String) : Except TextError Json :=
  match reader.read (Token.scan text.toList) with
  | .error e => .error e
  | .ok (v, []) => .ok v
  | .ok _ => .error .malformed

end Reader
end NodeGroups.Json
