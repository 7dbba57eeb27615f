import Bigstar.Lib.Buffer
import Bigstar.Netplay.RollbackSavestate

/-!
# Main RAM survives a rollback savestate

What is written in saving mode is described by the bytes that are appended, and what is loaded by
the bytes that the buffer holds at the offset. Sparse and delta mode are one: a sparse savestate is
a delta against zeros.
-/

namespace Bigstar.Netplay.RollbackSavestate

open LittleEndian RollbackStorage Buffer

/-! ## The savestate -/

namespace Savestate

variable {file : Savestate}

/-- The savestate after more bytes were saved. -/
def append (file : Savestate) (data : List UInt8) : Savestate :=
  { file with buffer := file.buffer ++ data, offset := file.offset + data.length }

/-- The savestate after some bytes were loaded. -/
def skip (file : Savestate) (count : Nat) : Savestate := { file with offset := file.offset + count }

/-- Ready to save, or to load. -/
structure Writes (file : Savestate) : Prop where
  saving : file.saving = true
  error : file.error = false

/-- The file is read, without an error. -/
structure Reads (file : Savestate) : Prop where
  loading : file.saving = false
  error : file.error = false

theorem Writes.append (h : file.Writes) (data : List UInt8) : (file.append data).Writes :=
  ⟨h.saving, h.error⟩

theorem Reads.skip (h : file.Reads) (count : Nat) : (file.skip count).Reads := ⟨h.loading, h.error⟩

theorem append_append (file : Savestate) (data data' : List UInt8) :
    (file.append data).append data' = file.append (data ++ data') := by
  simp only [append, List.append_assoc, List.length_append, Nat.add_assoc]

theorem append_nil (file : Savestate) : file.append [] = file := by
  simp only [append, List.append_nil, List.length_nil, Nat.add_zero]

/-- Writing appends the bytes. -/
theorem Writes.varArray (h : file.Writes) (data : List UInt8) :
    file.varArray data = (file.append data, data) := by
  obtain ⟨saving, error, buffer, offset⟩ := file
  obtain ⟨rfl, rfl⟩ := h
  rfl

theorem Writes.var32 (h : file.Writes) {value : Nat} (hvalue : value < 256 ^ 4) :
    file.var32 value = (file.append (toBytes 4 value), value) := by
  unfold Savestate.var32
  rw [h.varArray]
  dsimp only
  rw [ofBytes_toBytes, Nat.mod_eq_of_lt hvalue]

/-- Reading takes the bytes that are there. -/
theorem Reads.varArray (h : file.Reads) {old data : List UInt8} (hlength : old.length = data.length)
    (hholds : Holds file.buffer file.offset data) :
    file.varArray old = (file.skip data.length, data) := by
  obtain ⟨saving, error, buffer, offset⟩ := file
  obtain ⟨rfl, rfl⟩ := h
  have hle : ¬ offset + data.length > buffer.length := Nat.not_lt.mpr hholds.le
  have htake : (buffer.drop offset).take data.length = data := hholds.take_drop
  unfold Savestate.varArray
  dsimp only
  rw [if_neg Bool.false_ne_true, if_neg Bool.false_ne_true, hlength, if_neg hle, htake]
  rfl

/-- Reading takes the word that is there. -/
theorem Reads.var32 (h : file.Reads) (old : Nat) {value : Nat} (hvalue : value < 256 ^ 4)
    (hholds : Holds file.buffer file.offset (toBytes 4 value)) :
    file.var32 old = (file.skip 4, value) := by
  unfold Savestate.var32
  rw [h.varArray (by rw [length_toBytes, length_toBytes]) hholds]
  dsimp only
  rw [length_toBytes, ofBytes_toBytes, Nat.mod_eq_of_lt hvalue]

end Savestate

open Savestate

/-- The part of a held region behind its first bytes. -/
theorem holds_rest {buffer first rest : List UInt8} {offset : Nat}
    (h : Holds buffer offset (first ++ rest)) :
    Holds buffer (offset + first.length) rest := by
  rw [← List.append_nil (first ++ rest)] at h
  exact h.of_append

theorem holds_first {buffer first rest : List UInt8} {offset : Nat}
    (h : Holds buffer offset (first ++ rest)) :
    Holds buffer offset first := by
  rw [← List.nil_append first, List.append_assoc] at h
  rw [← List.append_assoc] at h
  exact h.of_append

/-! ## Pages -/

theorem pageBytes_eq (mainRAM : List UInt8) (pageSize page : Nat) :
    pageBytes mainRAM pageSize page = Pages.page pageSize page mainRAM := by
  unfold pageBytes Pages.page
  dsimp only
  have hall : (mainRAM.drop (page * pageSize)).take (mainRAM.length - page * pageSize) =
      mainRAM.drop (page * pageSize) := List.take_of_length_le (by rw [List.length_drop])
  rw [← List.take_take, hall]

/-- What a page takes up in the savestate. -/
def record (mainRAM : List UInt8) (pageSize page : Nat) : List UInt8 :=
  toBytes 4 page ++ Pages.page pageSize page mainRAM

/-- The pages that are saved. -/
def savedPages (mainRAMMode : Nat) (mainRAM base : List UInt8) (pageSize : Nat) : List Nat :=
  (List.range (Pages.pageCount pageSize mainRAM.length)).filter
    (savesPage mainRAMMode mainRAM base pageSize)

/-- What is written for the pages. -/
theorem savePages_eq {file : Savestate} (h : file.Writes) (mainRAMMode : Nat)
    (mainRAM base : List UInt8)
    {pageSize : Nat} (hcount : Pages.pageCount pageSize mainRAM.length ≤ 256 ^ 4) :
    savePages file mainRAMMode mainRAM base pageSize (Pages.pageCount pageSize mainRAM.length) =
      file.append ((savedPages mainRAMMode mainRAM base pageSize).flatMap
        (record mainRAM pageSize)) := by
  unfold savePages savedPages
  generalize hpages : List.range (Pages.pageCount pageSize mainRAM.length) = pages
  have hlt : ∀ page ∈ pages, page < 256 ^ 4 := by
    intro page hpage
    rw [← hpages, List.mem_range] at hpage
    omega
  clear hpages
  induction pages generalizing file with
  | nil => rw [List.filter_nil, List.flatMap_nil, append_nil, List.foldl_nil]
  | cons page pages ih =>
    have hlt' : ∀ page ∈ pages, page < 256 ^ 4 := fun p hp => hlt p (List.mem_cons_of_mem _ hp)
    rw [List.foldl_cons]
    by_cases hsaves : savesPage mainRAMMode mainRAM base pageSize page = true
    · rw [if_pos hsaves, h.var32 (hlt page List.mem_cons_self), (h.append _).varArray, pageBytes_eq,
        append_append, ih (h.append _) hlt', List.filter_cons_of_pos hsaves,
        List.flatMap_cons, append_append]
      rfl
    · rw [if_neg hsaves, List.filter_cons_of_neg hsaves]
      exact ih h hlt'

/-- Reading writes the pages over what was there. -/
theorem loadPages_eq {file : Savestate} (h : file.Reads) {source mainRAM : List UInt8}
    (hlength : source.length = mainRAM.length) {pageSize : Nat}
    (hsize : 0 < pageSize) {pages : List Nat}
    (hpages : ∀ page ∈ pages, page * pageSize < mainRAM.length ∧ page < 256 ^ 4)
    (hholds : Holds file.buffer file.offset (pages.flatMap (record source pageSize))) :
    loadPages pageSize (Pages.pageCount pageSize mainRAM.length) pages.length file mainRAM =
      (file.skip (pages.flatMap (record source pageSize)).length,
        Pages.copyPages pageSize source pages mainRAM, true) := by
  generalize hcount : Pages.pageCount pageSize mainRAM.length = pageCount
  induction pages generalizing file mainRAM with
  | nil => rfl
  | cons page pages ih =>
    obtain ⟨hpage, hlt⟩ := hpages page List.mem_cons_self
    rw [List.flatMap_cons, record, List.append_assoc] at hholds
    have hnumber := holds_first hholds
    have hrest := holds_rest hholds
    rw [length_toBytes] at hrest
    have hdata := holds_first hrest
    have hnext := holds_rest hrest
    have hnot : ¬ page ≥ pageCount := by
      rw [← hcount]
      exact Nat.not_le.mpr ((Pages.lt_pageCount_iff hsize).mpr hpage)
    have hsame : (pageBytes mainRAM pageSize page).length =
        (Pages.page pageSize page source).length := by
      rw [pageBytes_eq, Pages.length_page, Pages.length_page, hlength]
    have hwritten := Pages.length_writeAt (Pages.page_fits hlength hpage)
    rw [List.length_cons, loadPages, h.var32 0 hlt hnumber]
    dsimp only
    rw [if_neg hnot, (h.skip 4).varArray hsame hdata]
    dsimp only
    rw [ih ((h.skip 4).skip _) (hlength.trans hwritten.symm) ?_ hnext
      (by rw [hwritten]; exact hcount)]
    · refine Prod.ext ?_ rfl
      simp only [Savestate.skip, List.flatMap_cons, record, List.length_append,
        length_toBytes, Nat.add_assoc]
    · intro p hp
      rw [hwritten]
      exact hpages p (List.mem_cons_of_mem _ hp)

/-! ## What a mode saves against -/

/-- The image that the saved pages are put over when they are loaded. -/
def startImage (mainRAMMode length : Nat) (base : List UInt8) : List UInt8 :=
  if mainRAMMode = kMainRAMModeSparse then List.replicate length 0 else base.take length

/-- A page is saved unless it is zero. -/
theorem savesPage_sparse (mainRAM base : List UInt8) (pageSize page : Nat) :
    savesPage kMainRAMModeSparse mainRAM base pageSize page =
      decide (Pages.page pageSize page (List.replicate mainRAM.length 0) ≠
        Pages.page pageSize page mainRAM) := by
  have hzero : Pages.page pageSize page (List.replicate mainRAM.length (0 : UInt8)) =
      List.replicate (Pages.page pageSize page mainRAM).length 0 := by
    unfold Pages.page
    rw [List.drop_replicate, List.take_replicate, List.length_take, List.length_drop]
  unfold savesPage
  rw [if_pos rfl, pageBytes_eq, hzero, Bool.eq_iff_iff, List.any_eq_true, decide_eq_true_eq]
  constructor
  · rintro ⟨byte, hmem, hne⟩ heq
    rw [← heq] at hmem
    rw [List.eq_of_mem_replicate hmem] at hne
    exact absurd hne (by decide)
  · intro hne
    by_contra hall
    refine hne (List.eq_replicate_iff.mpr ⟨rfl, ?_⟩).symm
    intro byte hmem
    by_contra hbyte
    exact hall ⟨byte, hmem, bne_iff_ne.mpr hbyte⟩

/-- A page is saved if it differs from the base. -/
theorem savesPage_delta {mainRAM base : List UInt8} (hlength : base.length = mainRAM.length)
    (pageSize page : Nat) :
    savesPage kMainRAMModeDelta mainRAM base pageSize page =
      decide (Pages.page pageSize page base ≠ Pages.page pageSize page mainRAM) := by
  have hram := pageBytes_eq mainRAM pageSize page
  have hbase := pageBytes_eq base pageSize page
  unfold pageBytes at hram hbase
  dsimp only at hram hbase
  rw [hlength] at hbase
  unfold savesPage
  rw [if_neg (by decide)]
  dsimp only
  rw [hram, hbase, Bool.eq_iff_iff, bne_iff_ne, decide_eq_true_eq]
  exact ne_comm

/-- The pages that are saved are those in which main RAM differs from the image it is put over. -/
theorem savedPages_eq {mainRAMMode : Nat} {mainRAM base : List UInt8}
    (hmode : mainRAMMode = kMainRAMModeSparse ∨
      mainRAMMode = kMainRAMModeDelta ∧ base.length = mainRAM.length) (pageSize : Nat) :
    (startImage mainRAMMode mainRAM.length base).length = mainRAM.length ∧
      savedPages mainRAMMode mainRAM base pageSize =
        Pages.changedPages pageSize (startImage mainRAMMode mainRAM.length base) mainRAM := by
  unfold savedPages Pages.changedPages startImage
  rcases hmode with rfl | ⟨rfl, hlength⟩
  · rw [if_pos rfl, List.length_replicate]
    refine ⟨rfl, List.filter_congr fun page _ => ?_⟩
    exact savesPage_sparse mainRAM base pageSize page
  · rw [if_neg (by decide), ← hlength, List.take_length]
    refine ⟨rfl, List.filter_congr fun page _ => ?_⟩
    exact savesPage_delta hlength pageSize page

/-! ## Saving and loading pages -/

/-- The page size that is used. -/
def usedPageSize (mainRAMPageSize : Nat) : Nat :=
  if badPageSize mainRAMPageSize then 4096 else mainRAMPageSize

/-- A page size that is no good is replaced by one that is. -/
theorem usedPageSize_good (mainRAMPageSize : Nat) :
    badPageSize (usedPageSize mainRAMPageSize) = false := by
  unfold usedPageSize
  by_cases hbad : badPageSize mainRAMPageSize = true
  · rw [if_pos hbad]
    decide
  · rw [if_neg hbad]
    exact Bool.not_eq_true _ ▸ hbad

theorem usedPageSize_bounds (mainRAMPageSize : Nat) :
    256 ≤ usedPageSize mainRAMPageSize ∧ usedPageSize mainRAMPageSize ≤ 4096 := by
  have hgood := usedPageSize_good mainRAMPageSize
  unfold badPageSize at hgood
  simp only [Bool.or_eq_false_iff, decide_eq_false_iff_not] at hgood
  omega

/-- The bytes of main RAM in one of the modes that save pages. -/
def pagesImage (mainRAMMode : Nat) (mainRAM base : List UInt8) (pageSize : Nat) : List UInt8 :=
  toBytes 4 pageSize ++ (toBytes 4 (Pages.pageCount pageSize mainRAM.length) ++
    (toBytes 4 (savedPages mainRAMMode mainRAM base pageSize).length ++
      (savedPages mainRAMMode mainRAM base pageSize).flatMap (record mainRAM pageSize)))

section

variable {file : Savestate} {mainRAMMode : Nat} {mainRAM : List UInt8} {base : Option (List UInt8)}

/-- A mode that saves pages, with a base where it needs one. -/
def PagesMode (mainRAMMode length : Nat) (base : Option (List UInt8)) : Prop :=
  mainRAMMode = kMainRAMModeSparse ∨
    mainRAMMode = kMainRAMModeDelta ∧ ∃ image, base = some image ∧ image.length = length

/-- The two modes that save single pages. -/
theorem PagesMode.cases (h : PagesMode mainRAMMode mainRAM.length base) :
    ¬ (mainRAMMode = kMainRAMModeDelta ∧ base = none) ∧
      (mainRAMMode = kMainRAMModeSparse ∨
        mainRAMMode = kMainRAMModeDelta ∧ (base.getD []).length = mainRAM.length) := by
  rcases h with rfl | ⟨rfl, image, rfl, hlength⟩
  · exact ⟨fun hdelta => absurd hdelta.1 (by decide), .inl rfl⟩
  · exact ⟨fun hdelta => absurd hdelta.2 (by simp), .inr ⟨rfl, hlength⟩⟩

/-- The number of a page fits into a word. -/
theorem pageCount_lt (hmax : mainRAM.length ≤ MainRAMMaxSize) (mainRAMPageSize : Nat) :
    Pages.pageCount (usedPageSize mainRAMPageSize) mainRAM.length < 256 ^ 4 := by
  have hbounds := usedPageSize_bounds mainRAMPageSize
  have hdiv := Nat.div_le_self (mainRAM.length + usedPageSize mainRAMPageSize - 1)
    (usedPageSize mainRAMPageSize)
  unfold MainRAMMaxSize at hmax
  unfold Pages.pageCount
  omega

theorem length_savedPages_le (mainRAMMode : Nat) (mainRAM base : List UInt8) (pageSize : Nat) :
    (savedPages mainRAMMode mainRAM base pageSize).length ≤
      Pages.pageCount pageSize mainRAM.length := by
  have hle := List.length_filter_le (savesPage mainRAMMode mainRAM base pageSize)
    (List.range (Pages.pageCount pageSize mainRAM.length))
  rwa [List.length_range] at hle

/-- What is written for main RAM, page by page. -/
theorem doPages_saves (h : file.Writes) (hmax : mainRAM.length ≤ MainRAMMaxSize)
    (hmode : PagesMode mainRAMMode mainRAM.length base) (mainRAMPageSize : Nat) :
    doPages file mainRAM mainRAMMode base mainRAMPageSize =
      (file.append (pagesImage mainRAMMode mainRAM (base.getD []) (usedPageSize mainRAMPageSize)),
        mainRAM, true) := by
  have hgood := usedPageSize_good mainRAMPageSize
  have hbounds := usedPageSize_bounds mainRAMPageSize
  have hcount := pageCount_lt hmax mainRAMPageSize
  have hsaved := length_savedPages_le mainRAMMode mainRAM (base.getD [])
    (usedPageSize mainRAMPageSize)
  have hused : (if badPageSize mainRAMPageSize = true then 4096 else mainRAMPageSize) =
      usedPageSize mainRAMPageSize := rfl
  unfold doPages
  dsimp only
  rw [hused]
  generalize usedPageSize mainRAMPageSize = pageSize at *
  rw [if_neg hmode.cases.1, h.saving, if_pos rfl, h.var32 (by omega), (h.append _).var32 hcount]
  change _ = (file.append (pagesImage _ _ _ _), _, _)
  have h₃ := ((h.append (toBytes 4 pageSize)).append
    (toBytes 4 (Pages.pageCount pageSize mainRAM.length)))
  have hlength : ((List.range (Pages.pageCount pageSize mainRAM.length)).filter
      (savesPage mainRAMMode mainRAM (base.getD []) pageSize)).length < 256 ^ 4 :=
    Nat.lt_of_le_of_lt hsaved hcount
  rw [h₃.var32 hlength]
  dsimp only
  rw [(h₃.append _).saving, if_pos rfl, if_pos rfl, if_pos rfl, if_neg (by simp [hgood]),
    savePages_eq (h₃.append _) mainRAMMode mainRAM _ hcount.le, append_append,
    append_append, append_append]
  rfl

/-- It is read as it was written. -/
theorem doPages_loads {old : List UInt8} (h : file.Reads) (hmax : mainRAM.length ≤ MainRAMMaxSize)
    (hold : old.length = mainRAM.length) (hmode : PagesMode mainRAMMode mainRAM.length base)
    (mainRAMPageSize : Nat) {pageSize : Nat} (hsize : pageSize = usedPageSize mainRAMPageSize)
    (mainRAMPageSize' : Nat)
    (hholds : Holds file.buffer file.offset
      (pagesImage mainRAMMode mainRAM (base.getD []) pageSize)) :
    doPages file old mainRAMMode base mainRAMPageSize' =
      (file.skip (pagesImage mainRAMMode mainRAM (base.getD []) pageSize).length,
        mainRAM, true) := by
  have hgood := usedPageSize_good mainRAMPageSize
  have hbounds := usedPageSize_bounds mainRAMPageSize
  have hcount := pageCount_lt hmax mainRAMPageSize
  rw [← hsize] at hgood hbounds hcount
  have hsaved := length_savedPages_le mainRAMMode mainRAM (base.getD []) pageSize
  obtain ⟨hstart, hpages⟩ := savedPages_eq hmode.cases.2 pageSize
  unfold pagesImage at hholds
  have hrest₁ := holds_rest hholds
  have hrest₂ := holds_rest hrest₁
  have hrest₃ := holds_rest hrest₂
  rw [length_toBytes] at hrest₁ hrest₂ hrest₃
  rw [length_toBytes] at hrest₂ hrest₃
  rw [length_toBytes] at hrest₃
  unfold doPages
  dsimp only
  rw [if_neg hmode.cases.1, h.var32 _ (by omega) (holds_first hholds),
    (h.skip 4).var32 _ hcount (holds_first hrest₁),
    ((h.skip 4).skip 4).var32 _ (Nat.lt_of_le_of_lt hsaved hcount) (holds_first hrest₂)]
  dsimp only
  rw [(((h.skip 4).skip 4).skip 4).loading, if_neg Bool.false_ne_true, if_neg Bool.false_ne_true,
    if_neg Bool.false_ne_true, if_neg (show ¬ pageSize = 0 by omega), hold,
    if_neg (by simp [hgood])]
  change loadPages _ _ _ _ (startImage mainRAMMode mainRAM.length (base.getD [])) = _
  rw [show Pages.pageCount pageSize mainRAM.length = Pages.pageCount pageSize
      (startImage mainRAMMode mainRAM.length (base.getD [])).length by rw [hstart],
    loadPages_eq (((h.skip 4).skip 4).skip 4) hstart.symm (by omega) ?_ hrest₃]
  · have hcopy : Pages.copyPages pageSize mainRAM
        (Pages.changedPages pageSize (startImage mainRAMMode mainRAM.length (base.getD [])) mainRAM)
        (startImage mainRAMMode mainRAM.length (base.getD [])) = mainRAM :=
      Pages.copyPages_changedPages (by omega) hstart.symm
    rw [hpages, hcopy]
    refine Prod.ext ?_ rfl
    simp only [Savestate.skip, pagesImage, List.length_append, length_toBytes,
      hpages, Nat.add_assoc]
  · intro page hpage
    rw [hpages, Pages.mem_changedPages (by omega)] at hpage
    refine ⟨hpage.1, ?_⟩
    have hlt := (Pages.lt_pageCount_iff (by omega)).mpr hpage.1
    rw [hstart] at hlt
    omega

/-! ## Main RAM -/

/-- A mode that saves main RAM, with a base of its length where it needs one. -/
def SavesRAM (mainRAMMode length : Nat) (base : Option (List UInt8)) : Prop :=
  mainRAMMode = kMainRAMModeFull ∨ PagesMode mainRAMMode length base

/-- The bytes of main RAM in a savestate. -/
def image (mainRAMMode : Nat) (mainRAM base : List UInt8) (pageSize : Nat) : List UInt8 :=
  toBytes 4 mainRAM.length ++ (toBytes 4 mainRAMMode ++
    if mainRAMMode = kMainRAMModeFull then mainRAM else
      pagesImage mainRAMMode mainRAM base pageSize)

theorem PagesMode.ne (h : PagesMode mainRAMMode mainRAM.length base) :
    mainRAMMode ≠ kMainRAMModeFull ∧ mainRAMMode ≠ kMainRAMModeSkip ∧
      (mainRAMMode = kMainRAMModeSparse ∨ mainRAMMode = kMainRAMModeDelta) := by
  rcases h with rfl | ⟨rfl, -⟩
  · exact ⟨by decide, by decide, .inl rfl⟩
  · exact ⟨by decide, by decide, .inr rfl⟩

theorem SavesRAM.lt (h : SavesRAM mainRAMMode mainRAM.length base) : mainRAMMode < 256 ^ 4 := by
  rcases h with rfl | rfl | ⟨rfl, -⟩ <;> decide

/-- What is written for main RAM in any mode. -/
theorem doMainRAM_saves (h : file.Writes) (hpos : 0 < mainRAM.length)
    (hmax : mainRAM.length ≤ MainRAMMaxSize) (hmode : SavesRAM mainRAMMode mainRAM.length base)
    (mainRAMPageSize : Nat) :
    doMainRAM file mainRAM mainRAMMode base mainRAMPageSize =
      (file.append (image mainRAMMode mainRAM (base.getD []) (usedPageSize mainRAMPageSize)),
        mainRAM, true) := by
  have hlength : mainRAM.length < 256 ^ 4 := by
    unfold MainRAMMaxSize at hmax
    omega
  unfold doMainRAM image
  dsimp only
  rw [h.var32 hlength]
  dsimp only
  rw [if_neg (by omega), (h.append _).var32 hmode.lt]
  dsimp only
  rcases hmode with rfl | hpages
  · rw [if_pos rfl, if_pos rfl, ((h.append _).append _).varArray, append_append, append_append]
  · rw [if_neg hpages.ne.1, if_neg hpages.ne.1, if_neg hpages.ne.2.1, if_pos hpages.ne.2.2,
      doPages_saves ((h.append _).append _) hmax hpages, append_append, append_append]

/-- It is read as it was written. -/
theorem doMainRAM_loads {old : List UInt8} (h : file.Reads) (hpos : 0 < mainRAM.length)
    (hmax : mainRAM.length ≤ MainRAMMaxSize) (hold : old.length = mainRAM.length)
    (hmode : SavesRAM mainRAMMode mainRAM.length base) (requestedMainRAMMode mainRAMPageSize : Nat)
    {pageSize : Nat} (hsize : pageSize = usedPageSize mainRAMPageSize) (mainRAMPageSize' : Nat)
    (hholds : Holds file.buffer file.offset (image mainRAMMode mainRAM (base.getD []) pageSize)) :
    doMainRAM file old requestedMainRAMMode base mainRAMPageSize' =
      (file.skip (image mainRAMMode mainRAM (base.getD []) pageSize).length, mainRAM, true) := by
  have hlength : mainRAM.length < 256 ^ 4 := by
    unfold MainRAMMaxSize at hmax
    omega
  unfold image at hholds ⊢
  have hrest₁ := holds_rest hholds
  have hrest₂ := holds_rest hrest₁
  rw [length_toBytes] at hrest₁ hrest₂
  rw [length_toBytes] at hrest₂
  unfold doMainRAM
  dsimp only
  rw [h.var32 _ hlength (holds_first hholds)]
  dsimp only
  rw [if_neg (by omega), (h.skip 4).var32 _ hmode.lt (holds_first hrest₁)]
  dsimp only
  rcases hmode with rfl | hpages
  · rw [if_pos rfl] at hrest₂
    rw [if_pos rfl, if_pos rfl, ((h.skip 4).skip 4).varArray hold hrest₂]
    refine Prod.ext ?_ rfl
    simp only [Savestate.skip, List.length_append, length_toBytes, Nat.add_assoc]
  · rw [if_neg hpages.ne.1] at hrest₂
    rw [if_neg hpages.ne.1, if_neg hpages.ne.1, if_neg hpages.ne.2.1, if_pos hpages.ne.2.2,
      doPages_loads ((h.skip 4).skip 4) hmax hold hpages mainRAMPageSize hsize
        mainRAMPageSize' hrest₂]
    refine Prod.ext ?_ rfl
    simp only [Savestate.skip, List.length_append, length_toBytes, Nat.add_assoc]

end

/-! ## Checkpoints -/

/-- A savestate with main RAM in some mode, saved with some page size. -/
def SavedAs (start mainRAMMode : Nat) (base : Option (List UInt8)) (mainRAM buffer : List UInt8) :
    Prop :=
  ∃ head tail mainRAMPageSize, head.length = start ∧
    saveCheckpointBuffer head tail mainRAM mainRAMMode base mainRAMPageSize = some buffer

theorem saveCheckpointBuffer_eq {mainRAMMode : Nat} {mainRAM : List UInt8}
    {base : Option (List UInt8)}
    (hpos : 0 < mainRAM.length) (hmax : mainRAM.length ≤ MainRAMMaxSize)
    (hmode : SavesRAM mainRAMMode mainRAM.length base) (head tail : List UInt8)
    (mainRAMPageSize : Nat) :
    saveCheckpointBuffer head tail mainRAM mainRAMMode base mainRAMPageSize =
      some (head ++ image mainRAMMode mainRAM (base.getD [])
        (usedPageSize mainRAMPageSize) ++ tail) := by
  have hwrites : Savestate.Writes { saving := true, buffer := head, offset := head.length } :=
    ⟨rfl, rfl⟩
  unfold saveCheckpointBuffer
  rw [doMainRAM_saves hwrites hpos hmax hmode mainRAMPageSize]
  rfl

/-- A savestate restores the main RAM that it was written for. -/
theorem SavedAs.restores {start mainRAMMode : Nat} {base : Option (List UInt8)}
    {mainRAM buffer : List UInt8}
    (h : SavedAs start mainRAMMode base mainRAM buffer) (hpos : 0 < mainRAM.length)
    (hmax : mainRAM.length ≤ MainRAMMaxSize) (hmode : SavesRAM mainRAMMode mainRAM.length base)
    (mainRAMPageSize : Nat) {old : List UInt8} (hold : old.length = mainRAM.length) :
    restoreCheckpointBuffer start mainRAMPageSize buffer old base = some mainRAM := by
  obtain ⟨head, tail, savedPageSize, rfl, hbuffer⟩ := h
  rw [saveCheckpointBuffer_eq hpos hmax hmode] at hbuffer
  cases hbuffer
  have hreads : Savestate.Reads ⟨false, false,
      head ++ image mainRAMMode mainRAM (base.getD []) (usedPageSize savedPageSize) ++ tail,
      head.length⟩ := ⟨rfl, rfl⟩
  unfold restoreCheckpointBuffer
  rw [doMainRAM_loads hreads hpos hmax hold hmode kMainRAMModeFull savedPageSize rfl mainRAMPageSize
    (holds_append_self _ _ _)]
  rfl

/-- A key savestate and deltas, each saved against the main RAM of the one before. -/
inductive SavedChain (start length : Nat) : List (StoredState (List UInt8)) →
    List UInt8 → Prop where
  | key {key : StoredState (List UInt8)} {mainRAMMode : Nat} {mainRAM buffer : List UInt8}
      (hdelta : key.mainRAMDelta = false) (hbuffer : key.buffer = some buffer)
      (hlength : mainRAM.length = length)
      (hmode : mainRAMMode = kMainRAMModeFull ∨ mainRAMMode = kMainRAMModeSparse)
      (hsaved : SavedAs start mainRAMMode none mainRAM buffer) :
      SavedChain start length [key] mainRAM
  | delta {chain : List (StoredState (List UInt8))} {delta : StoredState (List UInt8)}
      {before mainRAM buffer : List UInt8} (hchain : SavedChain start length chain before)
      (hdelta : delta.mainRAMDelta = true) (hbuffer : delta.buffer = some buffer)
      (hlength : mainRAM.length = length)
      (hsaved : SavedAs start kMainRAMModeDelta (some before) mainRAM buffer) :
      SavedChain start length (chain ++ [delta]) mainRAM

theorem SavedChain.length {start length : Nat} {chain : List (StoredState (List UInt8))}
    {mainRAM : List UInt8}
    (h : SavedChain start length chain mainRAM) : mainRAM.length = length := by
  cases h with
  | key _ _ hlength _ _ => exact hlength
  | delta _ _ _ hlength _ => exact hlength

/-- A chain of deltas restores the main RAM of its last one. -/
theorem SavedChain.restores {start length : Nat} (hpos : 0 < length)
    (hmax : length ≤ MainRAMMaxSize)
    {chain : List (StoredState (List UInt8))} {mainRAM : List UInt8}
    (h : SavedChain start length chain mainRAM) (mainRAMPageSize : Nat) {old : List UInt8}
    (hold : old.length = length) :
    restoreStoredStates start mainRAMPageSize old chain = some mainRAM := by
  induction h with
  | @key key mainRAMMode mainRAM buffer hdelta hbuffer hlength hmode hsaved =>
    have hsaves : SavesRAM mainRAMMode mainRAM.length none := by
      rcases hmode with rfl | rfl
      · exact .inl rfl
      · exact .inr (.inl rfl)
    unfold restoreStoredStates
    dsimp only
    rw [hdelta, if_neg Bool.false_ne_true, hbuffer, Option.getD_some,
      hsaved.restores (hlength ▸ hpos) (hlength ▸ hmax) hsaves mainRAMPageSize
        (hold.trans hlength.symm)]
    rfl
  | @delta chain delta before mainRAM buffer hchain hdelta hbuffer hlength hsaved ih =>
    have hsaves : SavesRAM kMainRAMModeDelta mainRAM.length (some before) :=
      .inr (.inr ⟨rfl, before, rfl, hchain.length.trans hlength.symm⟩)
    have hlast := hsaved.restores (hlength ▸ hpos) (hlength ▸ hmax) hsaves mainRAMPageSize
      (hchain.length.trans hlength.symm)
    cases chain with
    | nil => cases ih
    | cons front deltas =>
      unfold restoreStoredStates at ih ⊢
      rw [List.cons_append]
      dsimp only at ih ⊢
      split at ih
      · cases ih
      · next hfront =>
        rw [if_neg hfront]
        obtain ⟨first, hfirst, hrest⟩ := Option.bind_eq_some_iff.mp ih
        refine Option.bind_eq_some_iff.mpr ⟨first, hfirst, ?_⟩
        rw [List.foldlM_append]
        refine Option.bind_eq_some_iff.mpr ⟨before, hrest, ?_⟩
        rw [List.foldlM_cons, hdelta, Bool.not_true, if_neg Bool.false_ne_true, hbuffer,
          Option.getD_some, hlast]
        rfl

/-- Main RAM is restored bit for bit from what was saved of it, and by a chain of deltas. -/
theorem mainRAM_round_trip {length : Nat} (hpos : 0 < length) (hmax : length ≤ MainRAMMaxSize) :
    (∀ (mainRAMMode : Nat) (base : Option (List UInt8)) (mainRAM old head tail : List UInt8)
        (mainRAMPageSize mainRAMPageSize' requestedMainRAMMode : Nat),
      mainRAM.length = length → old.length = length → SavesRAM mainRAMMode length base →
      ∃ bytes,
        doMainRAM { saving := true, buffer := head, offset := head.length } mainRAM mainRAMMode base
            mainRAMPageSize =
          ({ saving := true, buffer := head ++ bytes, offset := head.length + bytes.length },
            mainRAM, true) ∧
        doMainRAM { saving := false, buffer := head ++ bytes ++ tail, offset := head.length } old
            requestedMainRAMMode base mainRAMPageSize' =
          ({ saving := false, buffer := head ++ bytes ++ tail,
             offset := head.length + bytes.length }, mainRAM, true)) ∧
    ∀ (start : Nat) (chain : List (StoredState (List UInt8))) (mainRAM old : List UInt8)
        (mainRAMPageSize : Nat),
      SavedChain start length chain mainRAM → old.length = length →
      restoreStoredStates start mainRAMPageSize old chain = some mainRAM := by
  constructor
  · intro mainRAMMode base mainRAM old head tail mainRAMPageSize mainRAMPageSize'
      requestedMainRAMMode
      hlength hold hmode
    subst hlength
    refine ⟨image mainRAMMode mainRAM (base.getD []) (usedPageSize mainRAMPageSize), ?_, ?_⟩
    · exact doMainRAM_saves ⟨rfl, rfl⟩ hpos hmax hmode mainRAMPageSize
    · exact doMainRAM_loads ⟨rfl, rfl⟩ hpos hmax hold hmode requestedMainRAMMode mainRAMPageSize rfl
        mainRAMPageSize' (holds_append_self _ _ _)
  · intro start chain mainRAM old mainRAMPageSize hchain hold
    exact hchain.restores hpos hmax mainRAMPageSize hold

/-- A sparse savestate of `[0, 0, 0, 1]`, saved with a page size that is replaced by 4096, and a
delta. -/
theorem mainRAM_round_trip_delta :
    restoreStoredStates 1 512 [9, 9, 9, 9]
      [{ buffer := some [5, 4, 0, 0, 0, 1, 0, 0, 0, 0, 16, 0, 0, 1, 0, 0, 0, 1, 0, 0, 0,
          0, 0, 0, 0, 0, 0, 0, 1] },
        { mainRAMDelta := true,
          buffer := some [6, 4, 0, 0, 0, 2, 0, 0, 0, 0, 1, 0, 0, 1, 0, 0, 0, 1, 0, 0, 0,
            0, 0, 0, 0, 0, 7, 0, 1, 8] }] = some [0, 7, 0, 1] := by
  refine (mainRAM_round_trip (by decide : 0 < 4) (by decide)).2 1 _ [0, 7, 0, 1]
    [9, 9, 9, 9] 512 ?_ rfl
  have hkey : saveCheckpointBuffer [5] [] [0, 0, 0, 1] kMainRAMModeSparse none 100 =
      some [5, 4, 0, 0, 0, 1, 0, 0, 0, 0, 16, 0, 0, 1, 0, 0, 0, 1, 0, 0, 0, 0, 0, 0,
        0, 0, 0, 0, 1] := by
    decide
  have hdelta : saveCheckpointBuffer [6] [8] [0, 7, 0, 1] kMainRAMModeDelta
    (some [0, 0, 0, 1]) 256 =
      some [6, 4, 0, 0, 0, 2, 0, 0, 0, 0, 1, 0, 0, 1, 0, 0, 0, 1, 0, 0, 0, 0, 0, 0, 0,
        0, 7, 0, 1, 8] := by
    decide
  change SavedChain 1 4 ([_] ++ [_]) _
  refine SavedChain.delta ?_ rfl rfl rfl ⟨[6], [8], 256, rfl, hdelta⟩
  exact SavedChain.key rfl rfl rfl (.inr rfl) ⟨[5], [], 100, rfl, hkey⟩

end Bigstar.Netplay.RollbackSavestate
