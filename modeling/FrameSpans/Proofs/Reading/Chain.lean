import FrameSpans.Proofs.Reading.Guarded
import FrameSpans.Reading.Chain

/-!
# Where a chain of extension headers leads

A chain goes by the lengths that its headers tell, so its end is `Chain.Reached`: it lies within the
captured octets, or behind them at the end of a header that started in them (`Chain.Overrun`). What
is found in the chain lies between its start and its end (`Chain.placed_follow`).

`Chain.Visits` and `Chain.LaterFragment` tell of a chain without following it to its end: which
headers it comes to, and where the first header of a later fragment stands. A chain that ends with
such a header leaves nothing behind it (`Chain.follow_of_laterFragment`). One that goes on stays
that of a later fragment as long as no header of a first fragment follows
(`Chain.isFirstFragment_of_laterFragment`).
-/

namespace FrameSpans

/-- What is found lies between two positions. -/
def Mark.Between (first last : Nat) : Mark → Prop
  | .option span => first ≤ span.offset ∧ span.offset + span.length ≤ last
  | .fragment _ => True

/-- What lies between two positions lies between positions further apart. -/
theorem Mark.Between.mono {mark : Mark} {first last first' last' : Nat}
    (h : mark.Between first last) (low : first' ≤ first) (high : last ≤ last') :
    mark.Between first' last' := by
  cases mark with
  | option span =>
    obtain ⟨behind, ends⟩ := h
    exact ⟨Nat.le_trans low behind, Nat.le_trans ends high⟩
  | fragment => trivial

namespace Chain

/-! ## The end of a chain -/

/-- The position lies behind the captured octets, at the end of an extension header that started in
them. -/
def Overrun (data : Octets) (position : Nat) : Prop :=
  data.size < position ∧ ∃ start form header,
    ExtensionHeader.read? data start form = some header ∧ position = start + header.length

/-- The position lies within the captured octets, or behind them at the end of an extension header
that started in them. -/
def Reached (data : Octets) (position : Nat) : Prop :=
  position ≤ data.size ∨ Overrun data position

/-- The end of an extension header that was read is reached. -/
theorem reached_of_read? {data : Octets} {offset : Nat} {form : ExtensionForm}
    {header : ExtensionHeader} (h : ExtensionHeader.read? data offset form = some header) :
    Reached data (offset + header.length) := by
  by_cases captured : offset + header.length ≤ data.size
  · exact .inl captured
  · exact .inr ⟨by omega, offset, form, header, h, rfl⟩

/-- What an extension header leaves lies between its start and its end. -/
theorem between_marksOf (data : Octets) (offset : Nat) (type : IpProtocol) (form : ExtensionForm)
    (length : Nat) :
    ∀ mark ∈ marksOf data offset type form length, mark.Between offset (offset + length) := by
  unfold marksOf
  intro mark member
  split at member <;> split at member
  · cases List.mem_singleton.mp member
    trivial
  · cases member
  · cases List.mem_singleton.mp member
    exact ⟨Nat.le_refl _, Nat.le_refl _⟩
  · cases member

/-- The end of a chain is reached, and what is found in the chain lies before it. -/
theorem placed_follow {data : Octets} {start length : Nat} {next : IpProtocol} {isFirst : Bool}
    (h : Reached data (start + length)) {chain : Chain}
    (found : follow data start next length isFirst = .ok chain) :
    length ≤ chain.length ∧ Reached data (start + chain.length) ∧
      ∀ mark ∈ chain.marks, mark.Between (start + length) (start + chain.length) := by
  -- Induction along the chain. That a header was read is what makes its end reached.
  fun_induction follow data start next length isFirst generalizing chain with
  | case1 | case3 =>
    cases found
    exact ⟨Nat.le_refl _, h, nofun⟩
  | case2 | case4 => cases found
  | case5 next length isFirst form _ offset sum header read rest followed ih =>
    cases found
    obtain rfl := eq_add_of_advance sum
    have behind : Reached data (start + (length + header.length)) := by
      rw [← Nat.add_assoc]
      exact reached_of_read? read
    obtain ⟨longer, ends, marks⟩ := ih behind followed
    refine ⟨show length ≤ rest.length by omega, ends, fun mark member => ?_⟩
    have inside : start + length + header.length ≤ start + rest.length := by omega
    rcases List.mem_append.mp member with here | later
    · exact (between_marksOf data _ next form header.length mark here).mono (Nat.le_refl _)
        (by omega)
    · exact (marks mark later).mono (by omega) (Nat.le_refl _)

/-! ## One header of a chain -/

/-- Following a chain without the proofs that it ends. -/
theorem follow_eq (data : Octets) (start : Nat) (next : IpProtocol) (length : Nat)
    (isFirst : Bool) :
    follow data start next length isFirst =
      match next.extensionForm? with
      | none => .ok ⟨next, length, [], isFirst, true⟩
      | some form =>
        match advance start length with
        | .error stop => .error stop
        | .ok offset =>
          match ExtensionHeader.read? data offset form with
          | none => .ok ⟨next, length, [], isFirst, false⟩
          | some header =>
            (follow data start header.nextHeader (length + header.length)
              (isFirstBehind data offset form isFirst)).map fun rest =>
                { rest with
                  marks := marksOf data offset next form header.length ++ rest.marks } := by
  rw [follow]
  cases next.extensionForm? with
  | none => rfl
  | some form =>
    dsimp only
    cases advance start length with
    | error stop => rfl
    | ok offset =>
      dsimp only
      cases ExtensionHeader.read? data offset form with
      | none => rfl
      | some header =>
        dsimp only
        cases follow data start header.nextHeader (length + header.length)
          (isFirstBehind data offset form isFirst) <;> rfl

/-- No extension header that was captured stands at a position, where one of the given type is
expected. -/
def Ends (data : Octets) (position : Nat) (next : IpProtocol) : Prop :=
  ∀ form, next.extensionForm? = some form → ExtensionHeader.read? data position form = none

/-- A chain comes to its end where no extension header was captured. It is complete if none is
expected there. -/
theorem follow_of_ends {data : Octets} {start length : Nat} {next : IpProtocol} (isFirst : Bool)
    (roomy : start + length < offsetBound) (h : Ends data (start + length) next) :
    follow data start next length isFirst =
      .ok ⟨next, length, [], isFirst, next.extensionForm?.isNone⟩ := by
  have sum : advance start length = .ok (start + length) := if_pos roomy
  rw [follow_eq]
  cases extension : next.extensionForm? with
  | none => rfl
  | some form =>
    dsimp only
    rw [sum]
    dsimp only
    rw [h form extension]
    rfl

/-- A chain goes on behind an extension header that was read, and finds what that header leaves
first. -/
theorem follow_of_read {data : Octets} {start length : Nat} {next : IpProtocol} (isFirst : Bool)
    {form : ExtensionForm} {header : ExtensionHeader} (extension : next.extensionForm? = some form)
    (roomy : start + length < offsetBound)
    (read : ExtensionHeader.read? data (start + length) form = some header) :
    follow data start next length isFirst =
      (follow data start header.nextHeader (length + header.length)
        (isFirstBehind data (start + length) form isFirst)).map fun rest =>
          { rest with
            marks := marksOf data (start + length) next form header.length ++ rest.marks } := by
  have sum : advance start length = .ok (start + length) := if_pos roomy
  rw [follow_eq, extension]
  dsimp only
  rw [sum]
  dsimp only
  rw [read]

/-- What a chain comes to behind an extension header that was read is what follows that header,
behind what the header leaves. -/
theorem of_follow_of_read {data : Octets} {start length : Nat} {next : IpProtocol} {isFirst : Bool}
    {form : ExtensionForm} {header : ExtensionHeader} (extension : next.extensionForm? = some form)
    (roomy : start + length < offsetBound)
    (read : ExtensionHeader.read? data (start + length) form = some header) {chain : Chain}
    (found : follow data start next length isFirst = .ok chain) :
    ∃ rest, follow data start header.nextHeader (length + header.length)
        (isFirstBehind data (start + length) form isFirst) = .ok rest ∧
      chain = { rest with
        marks := marksOf data (start + length) next form header.length ++ rest.marks } := by
  rw [follow_of_read isFirst extension roomy read] at found
  cases followed : follow data start header.nextHeader (length + header.length)
      (isFirstBehind data (start + length) form isFirst) with
  | error stop =>
    rw [followed] at found
    cases found
  | ok rest =>
    rw [followed] at found
    cases found
    exact ⟨rest, rfl, rfl⟩

/-! ## Later fragments -/

/-- Following the chain from a header of the first type at the first position leads to a header of
the second type at the second position. -/
inductive Visits (data : Octets) : Nat → IpProtocol → Nat → IpProtocol → Prop
  /-- It is the header that the chain starts with. -/
  | here (position : Nat) (type : IpProtocol) : Visits data position type position type
  /-- It comes behind an extension header. -/
  | behind {position target : Nat} {type wanted : IpProtocol} {form : ExtensionForm}
    {header : ExtensionHeader} (extension : type.extensionForm? = some form)
    (read : ExtensionHeader.read? data position form = some header)
    (rest : Visits data (position + header.length) header.nextHeader target wanted) :
    Visits data position type target wanted

/-- Following the chain from a header of the given type at a position leads to the header of a later
fragment, one with a fragment offset other than zero, and to no such header before it. -/
inductive LaterFragment (data : Octets) :
    Nat → IpProtocol → Nat → ExtensionHeader → FragmentFields → Prop
  /-- It is the header that the chain starts with. -/
  | here {position : Nat} {header : ExtensionHeader} {fields : FragmentFields}
    (read : ExtensionHeader.read? data position .fixed = some header)
    (captured : FragmentFields.read? data position = some fields) (later : fields.offset ≠ 0) :
    LaterFragment data position .ipv6Frag position header fields
  /-- It comes behind an extension header that is not the header of a later fragment. -/
  | behind {position target : Nat} {type : IpProtocol} {form : ExtensionForm}
    {header last : ExtensionHeader} {fields : FragmentFields}
    (extension : type.extensionForm? = some form)
    (read : ExtensionHeader.read? data position form = some header)
    (first : isFirstBehind data position form true = true)
    (rest : LaterFragment data (position + header.length) header.nextHeader target last fields) :
    LaterFragment data position type target last fields

/-- A fragment header has eight octets. -/
theorem length_of_read?_fixed {data : Octets} {position : Nat} {header : ExtensionHeader}
    (h : ExtensionHeader.read? data position .fixed = some header) : header.length = 8 := by
  unfold ExtensionHeader.read? at h
  split at h
  · rw [← Option.some.inj h]
  · cases h

/-- The header of a later fragment stands behind the headers before it, starts within the captured
octets and has eight octets. -/
theorem LaterFragment.position_le {data : Octets} {position target : Nat} {type : IpProtocol}
    {last : ExtensionHeader} {fields : FragmentFields}
    (h : LaterFragment data position type target last fields) :
    position ≤ target ∧ target < data.size ∧ last.length = 8 := by
  induction h with
  | here read captured later =>
    exact ⟨Nat.le_refl _, (ExtensionHeader.lt_size_of_read? read).1, length_of_read?_fixed read⟩
  | behind extension read first rest ih =>
    obtain ⟨behind, inside, length⟩ := ih
    exact ⟨by omega, inside, length⟩

section Later

variable {data : Octets} {position target start length : Nat} {next : IpProtocol}
  {last : ExtensionHeader} {fields : FragmentFields}

/-- What a chain comes to if it ends with the header of a later fragment: nothing is found behind
that header, and what was found before lies in front of it. -/
theorem follow_of_laterFragment (h : LaterFragment data position next target last fields)
    (here : position = start + length) (isFirst : Bool) (roomy : data.size + overhang < offsetBound)
    (ends : Ends data (target + 8) last.nextHeader) :
    ∃ marks, follow data start next length isFirst =
        .ok ⟨last.nextHeader, target + 8 - start, marks ++ [.fragment !fields.more], false,
          last.nextHeader.extensionForm?.isNone⟩ ∧
      ∀ mark ∈ marks, mark.Between position target := by
  rw [overhang] at roomy
  -- Induction on the headers in front of that of the later fragment.
  induction h generalizing length isFirst with
  | @here position header fields read captured later =>
    subst here
    have inside := (ExtensionHeader.lt_size_of_read? read).1
    have told : isFirstBehind data (start + length) .fixed isFirst = false := by
      rw [isFirstBehind, captured]
      exact beq_eq_false_iff_ne.mpr later
    have left : marksOf data (start + length) .ipv6Frag .fixed header.length =
        [.fragment !fields.more] := by
      rw [marksOf, captured]
    have passed : start + length + 8 - start = length + 8 := by omega
    rw [Nat.add_assoc] at ends
    refine ⟨[], ?_, fun mark member => (List.not_mem_nil member).elim⟩
    rw [follow_of_read isFirst rfl (by omega) read, told, left, length_of_read?_fixed read,
      follow_of_ends false (by omega) ends, passed]
    rfl
  | @behind position target type form header last fields extension read first rest ih =>
    subst here
    have inside := (ExtensionHeader.lt_size_of_read? read).1
    obtain ⟨marks, followed, before⟩ :=
      ih (Nat.add_assoc start length header.length)
        (isFirstBehind data (start + length) form isFirst) ends
    have beyond := rest.position_le.1
    refine ⟨marksOf data (start + length) type form header.length ++ marks, ?_, ?_⟩
    · rw [follow_of_read isFirst extension (by omega) read, followed, List.append_assoc]
      rfl
    · intro mark member
      rcases List.mem_append.mp member with here | later
      · exact (between_marksOf data _ type form header.length mark here).mono (Nat.le_refl _) beyond
      · exact (before mark later).mono (Nat.le_add_right _ _) (Nat.le_refl _)

/-- A chain that is that of a later fragment stays so if no header of a first fragment follows. -/
theorem isFirstFragment_of_follow {isFirst : Bool} (begun : isFirst = false)
    (h : ∀ position fields, Visits data (start + length) next position .ipv6Frag →
      FragmentFields.read? data position = some fields → fields.offset ≠ 0)
    {chain : Chain} (found : follow data start next length isFirst = .ok chain) :
    chain.isFirstFragment = false := by
  fun_induction follow data start next length isFirst generalizing chain with
  | case1 | case3 =>
    cases found
    exact begun
  | case2 | case4 => cases found
  | case5 next length isFirst form extension offset sum header read rest followed ih =>
    cases found
    obtain rfl := eq_add_of_advance sum
    show rest.isFirstFragment = false
    refine ih ?_ ?_ followed
    · -- The header is no fragment header, or it is that of a later fragment again.
      unfold isFirstBehind
      split
      · split
        · next fields captured =>
          have fragment : next = .ipv6Frag := by
            cases next <;> first | rfl | cases extension
          rw [fragment] at h
          exact beq_eq_false_iff_ne.mpr (h _ fields (.here _ _) captured)
        · exact begun
      · exact begun
    · intro position fields visited captured
      rw [← Nat.add_assoc] at visited
      exact h position fields (.behind extension read visited) captured

/-- A chain with the header of a later fragment is that of a later fragment, if no header of a first
fragment follows. -/
theorem isFirstFragment_of_laterFragment
    (h : LaterFragment data position next target last fields) (here : position = start + length)
    {isFirst : Bool}
    (behind : ∀ position fields,
      Visits data (target + last.length) last.nextHeader position .ipv6Frag →
        FragmentFields.read? data position = some fields → fields.offset ≠ 0)
    (roomy : data.size + overhang < offsetBound)
    {chain : Chain} (found : follow data start next length isFirst = .ok chain) :
    chain.isFirstFragment = false := by
  rw [overhang] at roomy
  induction h generalizing length isFirst chain with
  | @here position header fields read captured later =>
    subst here
    have inside := (ExtensionHeader.lt_size_of_read? read).1
    obtain ⟨rest, followed, rfl⟩ := of_follow_of_read rfl (by omega) read found
    show rest.isFirstFragment = false
    refine isFirstFragment_of_follow ?_ ?_ followed
    · rw [isFirstBehind, captured]
      exact beq_eq_false_iff_ne.mpr later
    · rw [← Nat.add_assoc]
      exact behind
  | @behind position target type form header last fields extension read first rest ih =>
    subst here
    have inside := (ExtensionHeader.lt_size_of_read? read).1
    obtain ⟨chain, followed, rfl⟩ := of_follow_of_read extension (by omega) read found
    show chain.isFirstFragment = false
    exact ih (Nat.add_assoc start length header.length) behind followed

end Later

end Chain

end FrameSpans
