import MetadataHarvest.Main
import MetadataHarvest.Markup.Printer
import MetadataHarvest.Proofs.Format.Binding
import MetadataHarvest.Proofs.Format.Offer
import MetadataHarvest.Proofs.Record.Withdrawn
import MetadataHarvest.Proofs.Markup.RoundTrip
import MetadataHarvest.Proofs.Markup.Selection
import MetadataHarvest.Proofs.Document.RoundTrip
import MetadataHarvest.Proofs.Repository.Requests
import MetadataHarvest.Proofs.Protocol.Request
import MetadataHarvest.Proofs.Negotiation.Course
import MetadataHarvest.Proofs.RecordReader.Page
import MetadataHarvest.Proofs.RecordReader.Trail
import MetadataHarvest.Proofs.RecordReader.Place
import MetadataHarvest.Proofs.RecordReader.Reading
import MetadataHarvest.Proofs.RecordReader.Listing
import MetadataHarvest.Proofs.RecordReader.Ending
import MetadataHarvest.Proofs.RecordReader.Route
import MetadataHarvest.Proofs.RecordReader.Limit
import MetadataHarvest.Proofs.RecordReader.Truncation
import MetadataHarvest.Proofs.Harvester.Setting
import MetadataHarvest.Proofs.Harvester.Delivery
import MetadataHarvest.Proofs.Harvester.Reachable
import MetadataHarvest.Proofs.Harvester.Harvest
import MetadataHarvest.Proofs.Harvester.Finishing
import MetadataHarvest.Proofs.Markup.Enclosure
import MetadataHarvest.Proofs.Record.Enclosure
import MetadataHarvest.Proofs.Text.Words
import MetadataHarvest.Proofs.Markup.Pieces
import MetadataHarvest.Proofs.RecordReader.Token
import MetadataHarvest.Proofs.Format.Listing
import MetadataHarvest.Proofs.Markup.Descendants
import MetadataHarvest.Proofs.Record.Texts
import MetadataHarvest.Proofs.Record.DublinCore
import MetadataHarvest.Proofs.Markup.Prefix
import MetadataHarvest.Proofs.Record.Iso19139
import MetadataHarvest.Proofs.Record.Prefix
import MetadataHarvest.Proofs.Harvester.Prefix
import MetadataHarvest.Proofs.Harvester.Retry
import MetadataHarvest.Proofs.Text.Composition
import MetadataHarvest.Proofs.Text.Tidy
import MetadataHarvest.Proofs.Markup.Replacement
import MetadataHarvest.Proofs.Record.Places
import MetadataHarvest.Proofs.Record.Consistency
import MetadataHarvest.Proofs.Record.Tidy
import MetadataHarvest.Proofs.Calendar.Numeral
import MetadataHarvest.Proofs.Calendar.LeadingYear
import MetadataHarvest.Proofs.Calendar.YearForm
import MetadataHarvest.Proofs.Calendar.LeadingDate
import MetadataHarvest.Proofs.Calendar.Grammar
import MetadataHarvest.Proofs.Calendar.YearText
import MetadataHarvest.Proofs.Calendar.DocumentedYear
import MetadataHarvest.Proofs.Markup.Grammar
import MetadataHarvest.Proofs.Markup.Notes
import MetadataHarvest.Proofs.Markup.Rejoining
import MetadataHarvest.Proofs.Markup.WithoutNotes
import MetadataHarvest.Proofs.Protocol.OwnQuery
import MetadataHarvest.Proofs.Repository.Wording
import MetadataHarvest.Proofs.Format.Extended
import MetadataHarvest.Proofs.Protocol.ReportedError
import MetadataHarvest.Proofs.Markup.Texts
import MetadataHarvest.Proofs.Parameters.Validity
import MetadataHarvest.Proofs.Harvester.Making
import MetadataHarvest.Proofs.Repository.HostName
