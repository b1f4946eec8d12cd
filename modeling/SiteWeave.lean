import SiteWeave.Main
import SiteWeave.Proofs.Text.Occurrence
import SiteWeave.Proofs.Text.Seam
import SiteWeave.Proofs.Page.Segmentation
import SiteWeave.Proofs.Page.Outline
import SiteWeave.Proofs.Page.Interior
import SiteWeave.Proofs.Page.Insertion
import SiteWeave.Proofs.Page.Step
import SiteWeave.Proofs.Page.Run
import SiteWeave.Proofs.Page.Agreement
import SiteWeave.Proofs.Page.Rebuild
import SiteWeave.Proofs.Page.TextKept
import SiteWeave.Proofs.Page.StaleGuard
import SiteWeave.Proofs.Page.RegionsKept
import SiteWeave.Proofs.Page.Rewriting
import SiteWeave.Proofs.BlogIndex.Stability
import SiteWeave.Proofs.BlogIndex.Succession
import SiteWeave.Proofs.Template.Grammar
import SiteWeave.Proofs.Template.Substitution
import SiteWeave.Proofs.Json.Object
import SiteWeave.Proofs.PageContext.Expansion
import SiteWeave.Proofs.PageContext.Article
import SiteWeave.Proofs.Page.Replacement
import SiteWeave.Proofs.BlogIndex.Woven
import SiteWeave.Proofs.Build.PageStep
import SiteWeave.Proofs.Build.IndexPage
import SiteWeave.Proofs.SiteData.Load
import SiteWeave.Proofs.Build.Order
import SiteWeave.Proofs.Build.Changes
import SiteWeave.Proofs.Build.Failure
import SiteWeave.Proofs.Page.Banner
import SiteWeave.Proofs.Page.FooterLine
import SiteWeave.Proofs.Text.Expression
import SiteWeave.Proofs.BlogIndex.Search
import SiteWeave.Proofs.BlogIndex.Recognition
import SiteWeave.Proofs.Settings.Fallback
import SiteWeave.Proofs.Build.PageList
import SiteWeave.Proofs.PageContext.Kinds
import SiteWeave.Proofs.PageContext.SiteRecord
import SiteWeave.Proofs.BlogIndex.Layout
import SiteWeave.Proofs.Post.Redating
import SiteWeave.Proofs.PageContext.ImageSize
import SiteWeave.Proofs.PageContext.BasePath
import SiteWeave.Proofs.Build.FragmentFiles
import SiteWeave.Proofs.Page.Search
