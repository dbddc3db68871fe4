import CoreApi.Foundation.ParseInt
import CoreApi.Repos.Queries

/-!
# Pages

Every paginated endpoint reads a limit and an offset from optional texts of the
query string. The limit has a default and a maximum, the offset a default, and
neither has a minimum: a negative numeral passes through to the database, where
a negative limit counts from the last row and a negative offset is an error.
-/

namespace CoreApi

/-- `number || fallback`: `NaN` and zero do not count. -/
def orElse (number : Option Extended) (fallback : ℤ) : Extended :=
  match number with
  | none => .finite fallback
  | some value => if value = .finite 0 then .finite fallback else value

/-- The values that are passed to a repository. -/
structure Page where
  take : Extended
  skip : Extended
deriving DecidableEq

namespace Page

/-- `Math.min(parseInt(limit ?? text, 10) || fallback, 100)` and
`parseInt(offset ?? '0', 10) || 0` -/
def read (text : String) (fallback : ℤ) (limit offset : Option String) : Page where
  take := min (orElse (parseInt (limit.getD text)) fallback) (.finite 100)
  skip := orElse (parseInt (offset.getD "0")) 0

/-- One to a hundred rows, from the first on. -/
def InBounds (page : Page) : Prop :=
  .finite 1 ≤ page.take ∧ page.take ≤ .finite 100 ∧ .finite 0 ≤ page.skip

/-- Whatever the rows, the page is served, with a hundred of them at most. -/
def Serves (page : Page) : Prop :=
  ∀ take skip, page = ⟨.finite take, .finite skip⟩ → ∀ (Row : Type) (rows : List Row),
    ∃ shown, CoreApi.page take skip rows = .ok shown ∧ shown.length ≤ 100

end Page

variable (limit offset : Option String)

def OrgController.getMembers : Page := .read "50" 50 limit offset

def EngagementController.listBookmarks : Page := .read "50" 50 limit offset

def EngagementController.listFollows : Page := .read "50" 50 limit offset

def PlatformAdminController.listAllOrgs : Page := .read "50" 50 limit offset

def listKnowledgeItemsSchema : Page := .read "50" 50 limit offset

def getFeedSchema : Page := .read "20" 20 limit offset

/-- The endpoints that take a limit and an offset. -/
inductive PaginatedEndpoint where
  | orgMembers
  | bookmarks
  | follows
  | adminOrgs
  | knowledgeItems
  | feed
deriving DecidableEq

/-- The page that an endpoint reads from the two texts. -/
def PaginatedEndpoint.page : PaginatedEndpoint → Page
  | .orgMembers => OrgController.getMembers limit offset
  | .bookmarks => EngagementController.listBookmarks limit offset
  | .follows => EngagementController.listFollows limit offset
  | .adminOrgs => PlatformAdminController.listAllOrgs limit offset
  | .knowledgeItems => listKnowledgeItemsSchema limit offset
  | .feed => getFeedSchema limit offset

/-- A text that is given and is read as a negative number. -/
def Negative (text : Option String) : Prop := ∃ given, text = some given ∧ NegativeNumeral given

section Bounds

variable {fallback : ℤ} {limit offset : Option String}

/-- A positive default leaves nothing but the negative numbers below one. -/
theorem one_le_orElse_iff {number : Option Extended} (positive : 1 ≤ fallback) :
    .finite 1 ≤ orElse number fallback ↔ ¬∃ value, number = some value ∧ value < .finite 0 := by
  cases number with
  | none => simp [orElse, positive]
  | some value =>
      induction value using Extended.cases with
      | bot => simp [orElse]
      | top => simp [orElse]
      | finite value =>
          by_cases zero : value = 0
          · simp [orElse, zero, positive]
          · simp [orElse, zero]
            omega

theorem zero_le_orElse_iff {number : Option Extended} (nonneg : 0 ≤ fallback) :
    .finite 0 ≤ orElse number fallback ↔ ¬∃ value, number = some value ∧ value < .finite 0 := by
  cases number with
  | none => simp [orElse, nonneg]
  | some value =>
      by_cases zero : value = .finite 0
      · simp [orElse, zero, nonneg]
      · simp [orElse, zero]

/-- A default that is no negative numeral stands in for a missing text. -/
theorem parseInt_getD_neg_iff {given : Option String} {text : String}
    (plain : ¬NegativeNumeral text) :
    (∃ value, parseInt (given.getD text) = some value ∧ value < .finite 0) ↔ Negative given := by
  rw [parseInt_neg_iff]
  cases given with
  | none => simpa [Negative] using plain
  | some given => simp [Negative]

theorem Page.read_inBounds_iff {text : String} (plain : ¬NegativeNumeral text)
    (positive : 1 ≤ fallback) :
    (Page.read text fallback limit offset).InBounds ↔ ¬Negative limit ∧ ¬Negative offset := by
  have zero : ¬NegativeNumeral "0" := by
    rw [← parseInt_neg_iff]
    decide +kernel
  have least : .finite 1 ≤ (Page.read text fallback limit offset).take ↔ ¬Negative limit := by
    rw [Page.read, le_min_iff, one_le_orElse_iff positive, parseInt_getD_neg_iff plain]
    simp
  have start : .finite 0 ≤ (Page.read text fallback limit offset).skip ↔ ¬Negative offset := by
    rw [Page.read, zero_le_orElse_iff le_rfl, parseInt_getD_neg_iff zero]
  have most : (Page.read text fallback limit offset).take ≤ .finite 100 := min_le_right _ _
  simp only [Page.InBounds, least, start, most, true_and]

theorem Page.InBounds.serves {page : Page} (bounds : page.InBounds) : page.Serves := by
  rintro take skip rfl Row rows
  have least : 1 ≤ take := Extended.finite_le_finite.mp bounds.1
  have most : take ≤ 100 := Extended.finite_le_finite.mp bounds.2.1
  have start : 0 ≤ skip := Extended.finite_le_finite.mp bounds.2.2
  refine ⟨(rows.drop skip.toNat).take take.toNat, ?_, ?_⟩
  · rw [CoreApi.page, if_neg (by omega), if_neg (by omega)]
  · have short := List.length_take_le take.toNat (rows.drop skip.toNat)
    omega

/-- A negative limit shows all rows of a table that has no more than that. -/
theorem page_negative {Row : Type} {take : ℤ} {rows : List Row} (negative : take < 0)
    (few : rows.length ≤ take.natAbs) : page take 0 rows = .ok rows := by
  rw [page, if_neg (by omega), if_pos negative, Int.toNat_zero, List.drop_zero,
    List.take_of_length_le (by simpa using few), List.reverse_reverse]

end Bounds

/-- An endpoint passes a page within the bounds exactly when neither text is a negative numeral. -/
theorem page_bounds_iff (endpoint : PaginatedEndpoint) (limit offset : Option String) :
    (endpoint.page limit offset).InBounds ∧ (endpoint.page limit offset).Serves ↔
      ¬Negative limit ∧ ¬Negative offset := by
  have fifty : ¬NegativeNumeral "50" := by
    rw [← parseInt_neg_iff]
    decide +kernel
  have twenty : ¬NegativeNumeral "20" := by
    rw [← parseInt_neg_iff]
    decide +kernel
  rw [and_iff_left_of_imp Page.InBounds.serves]
  cases endpoint with
  | feed => exact Page.read_inBounds_iff twenty (by decide)
  | _ => exact Page.read_inBounds_iff fifty (by decide)

/-- A limit of minus a thousand shows a thousand rows, and an offset of minus one is rejected. -/
theorem negative_page :
    ¬(OrgController.getMembers (some "-1000") none).Serves ∧
      ¬(OrgController.getMembers (some "-1000") none).InBounds ∧
      ¬(getFeedSchema none (some "-1")).Serves ∧
      ¬(getFeedSchema none (some "-1")).InBounds := by
  have members : OrgController.getMembers (some "-1000") none = ⟨.finite (-1000), .finite 0⟩ := by
    decide +kernel
  have feed : getFeedSchema none (some "-1") = ⟨.finite 20, .finite (-1)⟩ := by
    decide +kernel
  rw [members, feed]
  refine ⟨?_, fun bounds => absurd (Extended.finite_le_finite.mp bounds.1) (by decide), ?_,
    fun bounds => absurd (Extended.finite_le_finite.mp bounds.2.2) (by decide)⟩
  · intro serves
    rcases serves _ _ rfl Unit (List.replicate 1000 ()) with ⟨shown, served, short⟩
    have all : page (-1000) 0 (List.replicate 1000 ()) = .ok (List.replicate 1000 ()) :=
      page_negative (by decide) List.length_replicate.le
    cases all.symm.trans served
    rw [List.length_replicate] at short
    omega
  · intro serves
    rcases serves _ _ rfl Unit [] with ⟨shown, served, -⟩
    cases served

end CoreApi
