import CgroupBench.Json.Writer
import CgroupBench.Proofs.JsonReader
import CgroupBench.Text.Blank

/-!
# What is written as JSON reads back

Any value whose numbers are spelled as numbers reads back as itself, in any style that puts blanks
only where JSON allows them. A string is read one character at a time, since each is escaped on its
own. Arrays and objects are read alike: both are lists in brackets, and differ in what one entry
does to the position of the reader.
-/
namespace CgroupBench.Json

/-! Strings. -/

theorem hexValue?_digitChar : ∀ n < 16, hexValue? (Nat.digitChar n) = some n := by
  decide

theorem codeUnit?_control {n : Nat} (small : n < 0x20) (rest : List Char) :
    codeUnit? ('0' :: '0' :: Nat.digitChar (n / 16) :: Nat.digitChar (n % 16) :: rest) =
      some (n, rest) := by
  have high := hexValue?_digitChar (n / 16) (by omega)
  have low := hexValue?_digitChar (n % 16) (by omega)
  have zero : hexValue? '0' = some 0 := rfl
  have joined : 16 * (n / 16) + n % 16 = n := Nat.div_add_mod n 16
  simp [codeUnit?, high, low, zero, joined]

/-- A character is read from what is written for it. -/
theorem character?_escape (c : Char) (rest : List Char) :
    ∃ first more, escape c = first :: more ∧ first ≠ '"' ∧
      character? first (more ++ rest) = some (c, rest) := by
  unfold escape
  split_ifs with quote backslash _ _ _ _ _ control
  iterate 7 (subst ‹c = _›; exact ⟨_, _, rfl, by decide, rfl⟩)
  · refine ⟨_, _, rfl, by decide, ?_⟩
    have small : c.toNat < 0xD800 ∨ 0xE000 ≤ c.toNat := by omega
    have unit := codeUnit?_control control rest
    show unicode? _ = _
    rw [unicode?]
    exact (congrArg (Option.bind · _) unit).trans (by simp [small, Char.ofNat_toNat])
  · refine ⟨c, [], rfl, quote, ?_⟩
    rw [character?, if_neg backslash, if_neg control]
    rfl

theorem characters?_cons {c d : Char} {text rest : List Char} (plain : c ≠ '"')
    (reads : character? c text = some (d, rest)) :
    characters? (c :: text) = (characters? rest).map fun (more, rest) => (d :: more, rest) := by
  rw [characters?, if_neg plain]
  grind

theorem characters?_escape (text rest : List Char) :
    characters? (text.flatMap escape ++ '"' :: rest) = some (text, rest) := by
  induction text with
  | nil => rw [List.flatMap_nil, List.nil_append, characters?, if_pos rfl]
  | cons c text ih =>
    obtain ⟨first, more, written, plain, reads⟩ :=
      character?_escape c (text.flatMap escape ++ '"' :: rest)
    rw [List.flatMap_cons, written, List.append_assoc, List.cons_append,
      characters?_cons plain reads, ih]
    rfl

/-! Tokens. -/

/-- Here no word or number goes on. -/
def Ends (rest : List Char) : Prop :=
  ∀ c ∈ rest.head?, bare c = false

theorem bare_of_blank {c : Char} (space : blank c) : bare c = false := by
  have mem : c ∈ [' ', '\t', '\n', '\r'] := List.contains_iff_mem.mp space
  simp only [List.mem_cons, List.not_mem_nil, or_false] at mem
  rcases mem with rfl | rfl | rfl | rfl <;> rfl

namespace Position

variable {position : Position} {c : Char} {rest : List Char} {token : Token}

theorem run?_blanks {blanks : List Char} (all : ∀ c ∈ blanks, blank c) :
    position.run? (blanks ++ rest) = position.run? rest := by
  induction blanks with
  | nil => rfl
  | cons c blanks ih =>
    obtain ⟨first, all⟩ := List.forall_mem_cons.mp all
    rw [List.cons_append, run?, if_pos first, ih all]

theorem run?_token {text : List Char} (begins : blank c = false)
    (reads : token? c text = some (token, rest)) :
    position.run? (c :: text) = (position.step? token).bind (·.run? rest) := by
  rw [run?, begins]
  grind

theorem apart_of_punctuation (known : punctuation? c = some token) :
    blank c = false ∧ c ≠ '"' ∧ bare c = false := by
  unfold punctuation? at known
  split at known <;> first | decide | cases known

theorem run?_punctuation (known : punctuation? c = some token) :
    position.run? (c :: rest) = (position.step? token).bind (·.run? rest) := by
  obtain ⟨noBlank, noQuote, noWord⟩ := apart_of_punctuation known
  refine run?_token noBlank ?_
  rw [token?, if_neg noQuote, noWord, known]
  rfl

theorem run?_quote (text : String) :
    position.run? (quote text ++ rest) = (position.step? (.string text)).bind (·.run? rest) := by
  have reads : token? '"' (text.toList.flatMap escape ++ '"' :: rest) =
      some (.string text, rest) := by
    rw [token?, if_pos rfl, characters?_escape]
    exact congrArg (fun value => some (Token.string value, rest)) String.ofList_toList
  rw [quote, List.append_assoc, List.cons_append]
  exact run?_token (by decide) reads

theorem run?_bare {text : List Char} (nonempty : text ≠ []) (all : text.all bare)
    (known : bareToken? text = some token) (ends : Ends rest) :
    position.run? (text ++ rest) = (position.step? token).bind (·.run? rest) := by
  obtain ⟨c, more, rfl⟩ := List.exists_cons_of_ne_nil nonempty
  obtain ⟨first, all⟩ := List.forall_mem_cons.mp (List.all_eq_true.mp all)
  obtain ⟨front, back⟩ := Text.span_append all ends
  have noQuote : c ≠ '"' := by
    rintro rfl
    exact absurd first (by decide)
  have noBlank : blank c = false := by
    refine eq_false_of_ne_true fun space => ?_
    rw [bare_of_blank space] at first
    cases first
  rw [List.cons_append]
  refine run?_token noBlank ?_
  rw [token?, if_neg noQuote, if_pos first, front, back, known]
  rfl

end Position

/-! Lists in brackets. -/

/-- Blanks at the start of a line, and a colon after a name with blanks behind it. -/
structure Style.Plain (style : Style) : Prop where
  lineStart : ∀ depth, ∀ c ∈ style.lineStart depth, blank c
  afterName : ∃ blanks, style.afterName = ':' :: blanks ∧ ∀ c ∈ blanks, blank c

theorem indented_plain : indented.Plain where
  lineStart depth c mem := by
    rcases List.mem_cons.mp mem with rfl | mem
    · rfl
    · rw [List.eq_of_mem_replicate mem]
      rfl
  afterName := ⟨[' '], rfl, List.all_eq_true.mp rfl⟩

theorem Ends.cons {c : Char} (stops : bare c = false) (rest : List Char) : Ends (c :: rest) := by
  rintro _ ⟨⟩
  exact stops

theorem Ends.append_blanks {blanks rest : List Char} (all : ∀ c ∈ blanks, blank c)
    (ends : Ends rest) : Ends (blanks ++ rest) := by
  cases blanks with
  | nil => exact ends
  | cons c blanks => exact Ends.cons (bare_of_blank (all c (.head _))) _

theorem intercalate_cons {α : Type} (separator first : List α) (more : List (List α)) :
    separator.intercalate (first :: more) = first ++ more.flatMap (separator ++ ·) := by
  induction more generalizing first with
  | nil => simp
  | cons second more ih => simp [List.intercalate_cons_cons, ih]

/-- The entries behind the first one, each after a comma and at the start of a line. -/
def continued (lineStart : List Char) (texts : List (List Char)) : List Char :=
  texts.flatMap fun text => ',' :: (lineStart ++ text)

theorem Ends.append_continued {rest : List Char} (ends : Ends rest) (lineStart : List Char)
    (texts : List (List Char)) : Ends (continued lineStart texts ++ rest) := by
  cases texts with
  | nil => exact ends
  | cons => exact Ends.cons (by decide) _

theorem enclose_cons (style : Style) (depth : Nat) (opening closing : Char) (first : List Char)
    (more : List (List Char)) :
    enclose style depth opening closing (first :: more) =
      opening :: (style.lineStart (depth + 1) ++ (first ++
        (continued (style.lineStart (depth + 1)) more ++ (style.lineStart depth ++ [closing])))) := by
  simp [enclose, intercalate_cons, List.flatMap_map, continued]

/-- How the reader goes through entries in brackets: where it is at the start, after some entries,
after a comma behind them, and after the closing bracket. -/
structure Listing {α : Type} (textOf : α → List Char) (entries : List α) (closing : Token)
    (start : Position) (after next finish : List α → Position) : Prop where
  empty : start.step? closing = some (finish [])
  first : ∀ entry ∈ entries, ∀ rest, Ends rest →
    start.run? (textOf entry ++ rest) = (after [entry]).run? rest
  comma : ∀ done, (after done).step? .comma = some (next done)
  later : ∀ entry ∈ entries, ∀ done rest, Ends rest →
    (next done).run? (textOf entry ++ rest) = (after (done ++ [entry])).run? rest
  close : ∀ done, (after done).step? closing = some (finish done)

namespace Listing

variable {α : Type} {textOf : α → List Char} {entries : List α} {closing : Token}
  {start : Position} {after next finish : List α → Position}

theorem tail {entry : α} (listing : Listing textOf (entry :: entries) closing start after next finish) :
    Listing textOf entries closing start after next finish :=
  { listing with
    first := fun entry mem => listing.first entry (.tail _ mem)
    later := fun entry mem => listing.later entry (.tail _ mem) }

/-- The reader goes on through the entries behind the first. -/
theorem run?_continued (listing : Listing textOf entries closing start after next finish)
    {lineStart : List Char} (all : ∀ c ∈ lineStart, blank c) (done : List α) {rest : List Char}
    (ends : Ends rest) :
    (after done).run? (continued lineStart (entries.map textOf) ++ rest) =
      (after (done ++ entries)).run? rest := by
  induction entries generalizing done with
  | nil => rw [List.append_nil]; rfl
  | cons entry entries ih =>
    have endsLater := ends.append_continued lineStart (entries.map textOf)
    calc (after done).run? (continued lineStart ((entry :: entries).map textOf) ++ rest)
      _ = (after done).run? (',' :: (lineStart ++ (textOf entry ++
            (continued lineStart (entries.map textOf) ++ rest)))) := by simp [continued]
      _ = (next done).run? (textOf entry ++
            (continued lineStart (entries.map textOf) ++ rest)) := by
          rw [Position.run?_punctuation rfl, listing.comma, Option.bind_some,
            Position.run?_blanks all]
      _ = (after (done ++ [entry])).run? (continued lineStart (entries.map textOf) ++ rest) :=
          listing.later entry (.head _) done _ endsLater
      _ = (after (done ++ entry :: entries)).run? rest := by
          rw [ih listing.tail, List.append_assoc, List.singleton_append]

theorem run?_enclose (listing : Listing textOf entries closing start after next finish)
    {style : Style} (plain : style.Plain) (depth : Nat) {position : Position}
    {openChar closeChar : Char} {opening : Token} (opens : punctuation? openChar = some opening)
    (closes : punctuation? closeChar = some closing)
    (enters : position.step? opening = some start) (rest : List Char) :
    position.run? (enclose style depth openChar closeChar (entries.map textOf) ++ rest) =
      (finish entries).run? rest := by
  cases entries with
  | nil =>
    show position.run? (openChar :: closeChar :: rest) = _
    rw [Position.run?_punctuation opens, enters, Option.bind_some, Position.run?_punctuation closes,
      listing.empty, Option.bind_some]
  | cons entry entries =>
    have endsLast : Ends (style.lineStart depth ++ closeChar :: rest) :=
      (Ends.cons (Position.apart_of_punctuation closes).2.2 _).append_blanks (plain.lineStart depth)
    rw [List.map_cons, enclose_cons]
    simp only [List.cons_append, List.append_assoc, List.nil_append]
    rw [Position.run?_punctuation opens, enters, Option.bind_some,
      Position.run?_blanks (plain.lineStart (depth + 1)),
      listing.first entry (.head _) _ (endsLast.append_continued _ _),
      listing.tail.run?_continued (plain.lineStart (depth + 1)) _ endsLast,
      Position.run?_blanks (plain.lineStart depth), Position.run?_punctuation closes, listing.close,
      Option.bind_some]
    rfl

end Listing

/-! Values. -/

/-- A value in which every number is spelled as one. -/
inductive Formed : Json → Prop where
  | null : Formed .null
  | boolean (value : Bool) : Formed (.boolean value)
  | number {text : String} (spelled : isNumber text.toList) : Formed (.number text)
  | string (value : String) : Formed (.string value)
  | array {items : List Json} (each : ∀ item ∈ items, Formed item) : Formed (.array items)
  | object {members : List (String × Json)} (each : ∀ member ∈ members, Formed member.2) :
      Formed (.object members)

/-- A value begins here, which is put into these frames when it is complete. -/
def Position.Begins (position : Position) (frames : List Frame) : Prop :=
  ∀ token ≠ .closeArray, position.step? token = begin? frames token

theorem Position.begins_item (frames : List Frame) : (item frames).Begins frames :=
  fun _ _ => rfl

theorem Position.begins_firstItem (frames : List Frame) :
    (firstItem frames).Begins (.array [] :: frames) := by
  rintro ⟨⟩ open_ <;> first | rfl | exact absurd rfl open_

def ReadsAs (text : List Char) (value : Json) : Prop :=
  ∀ (position : Position) (frames : List Frame), position.Begins frames →
    ∀ rest, Ends rest → position.run? (text ++ rest) = (Position.put value frames).run? rest

theorem readsAs_of_token {text : List Char} {value : Json} (token : Token)
    (reads : ∀ (position : Position) (rest : List Char), Ends rest →
      position.run? (text ++ rest) = (position.step? token).bind (·.run? rest))
    (starts : token ≠ .closeArray)
    (whole : ∀ frames, Position.begin? frames token = some (Position.put value frames)) :
    ReadsAs text value := by
  intro position frames begins rest ends
  rw [reads position rest ends, begins token starts, whole, Option.bind_some]

theorem readsAs_of_bare {text : List Char} {value : Json} (token : Token) (nonempty : text ≠ [])
    (all : text.all bare) (known : bareToken? text = some token) (starts : token ≠ .closeArray)
    (whole : ∀ frames, Position.begin? frames token = some (Position.put value frames)) :
    ReadsAs text value :=
  readsAs_of_token token (fun _ _ => Position.run?_bare nonempty all known) starts whole

section Write

variable {style : Style} {depth : Nat}

theorem writeItems_eq_map (items : List Json) :
    writeItems style depth items = items.map (write style depth) := by
  induction items with
  | nil => rfl
  | cons item items ih => rw [writeItems, ih, List.map_cons]

def writeMember (style : Style) (depth : Nat) (member : String × Json) : List Char :=
  quote member.1 ++ style.afterName ++ write style depth member.2

theorem writeMembers_eq_map (members : List (String × Json)) :
    writeMembers style depth members = members.map (writeMember style depth) := by
  induction members with
  | nil => rfl
  | cons member members ih =>
    rw [writeMembers, ih, List.map_cons]
    rfl

theorem listing_items {items : List Json}
    (each : ∀ item ∈ items, ReadsAs (write style depth item) item) (frames : List Frame) :
    Listing (write style depth) items .closeArray (.firstItem frames) (.afterItem · frames)
      (fun done => .item (.array done :: frames)) (fun done => .put (.array done) frames) where
  empty := rfl
  first item mem rest ends := each item mem _ _ (Position.begins_firstItem frames) rest ends
  comma _ := rfl
  later item mem _ rest ends := each item mem _ _ (Position.begins_item _) rest ends
  close _ := rfl

/-- A member is read where its name may stand. -/
theorem run?_writeMember (plain : style.Plain) {member : String × Json}
    (reads : ReadsAs (write style depth member.2) member.2) {position : Position}
    (done : List (String × Json)) {frames : List Frame}
    (named : position.step? (.string member.1) = some (.colon done member.1 frames))
    {rest : List Char} (ends : Ends rest) :
    position.run? (writeMember style depth member ++ rest) =
      (Position.afterMember (done ++ [member]) frames).run? rest := by
  obtain ⟨blanks, afterName, all⟩ := plain.afterName
  rw [writeMember, afterName, List.append_assoc, List.append_assoc, Position.run?_quote, named,
    Option.bind_some, List.cons_append, Position.run?_punctuation rfl]
  show (Position.item (.object done member.1 :: frames)).run? _ = _
  rw [Position.run?_blanks all]
  exact reads _ _ (Position.begins_item _) rest ends

theorem listing_members (plain : style.Plain) {members : List (String × Json)}
    (each : ∀ member ∈ members, ReadsAs (write style depth member.2) member.2)
    (frames : List Frame) :
    Listing (writeMember style depth) members .closeObject (.firstName frames)
      (.afterMember · frames) (.nextName · frames) (fun done => .put (.object done) frames) where
  empty := rfl
  first member mem _ ends := run?_writeMember plain (each member mem) [] rfl ends
  comma _ := rfl
  later member mem done _ ends := run?_writeMember plain (each member mem) done rfl ends
  close _ := rfl

theorem readsAs_write (plain : style.Plain) {value : Json} (formed : Formed value) :
    ∀ depth, ReadsAs (write style depth value) value := by
  induction formed with
  | null =>
    intro depth
    rw [write]
    exact readsAs_of_bare .null (by decide) rfl rfl nofun fun _ => rfl
  | boolean value =>
    intro depth
    cases value <;> rw [write]
    · exact readsAs_of_bare (.boolean false) (by decide) rfl rfl nofun fun _ => rfl
    · exact readsAs_of_bare (.boolean true) (by decide) rfl rfl nofun fun _ => rfl
  | @number text spelled =>
    intro depth
    have token : bareToken? text.toList = some (.number text) := by
      rw [bareToken?, if_pos spelled, String.ofList_toList]
    have all : text.toList.all bare := List.all_eq_true.mpr fun c mem => by
      rw [bare, numeric_of_isNumber spelled c mem, Bool.or_true]
    rw [write]
    exact readsAs_of_bare _ (ne_nil_of_isNumber spelled) all token nofun fun _ => rfl
  | string value =>
    intro depth
    rw [write]
    exact readsAs_of_token _ (fun _ _ _ => Position.run?_quote value) nofun fun _ => rfl
  | array _ ih =>
    intro depth position frames begins rest _
    rw [write, writeItems_eq_map]
    exact (listing_items (fun item mem => ih item mem (depth + 1)) frames).run?_enclose plain depth
      rfl rfl (begins .openArray nofun) rest
  | object _ ih =>
    intro depth position frames begins rest _
    rw [write, writeMembers_eq_map]
    exact (listing_members plain (fun member mem => ih member mem (depth + 1)) frames).run?_enclose
      plain depth rfl rfl (begins .openObject nofun) rest

theorem read?_render (plain : style.Plain) {value : Json} (formed : Formed value) :
    read? (render style value) = some value := by
  have reads := readsAs_write plain formed 0 _ _ (Position.begins_item []) [] (by rintro _ ⟨⟩)
  rw [List.append_nil] at reads
  rw [read?, render, String.toList_ofList, reads, Position.run?]
  rfl

end Write

end CgroupBench.Json
