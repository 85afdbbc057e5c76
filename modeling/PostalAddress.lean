import PostalAddress.Http.Application
import PostalAddress.Json.Reader
import PostalAddress.Json.Writer
import PostalAddress.Proofs.ComponentShape
import PostalAddress.Proofs.DoubledSign
import PostalAddress.Proofs.EndpointAgreement
import PostalAddress.Proofs.IgnoredTokens
import PostalAddress.Proofs.IntersectionValues
import PostalAddress.Proofs.Restandardization
import PostalAddress.Proofs.SecondStreet
import PostalAddress.Proofs.SentComponents
import PostalAddress.Record
import PostalAddress.Proofs.StreetSigns
import PostalAddress.Proofs.Respelling
import PostalAddress.Proofs.CanonicalValues
import PostalAddress.Proofs.CheckOrder
import PostalAddress.Proofs.RequestSchema
import PostalAddress.Proofs.ValidatedRequests
import PostalAddress.Proofs.PostedRequests
import PostalAddress.Proofs.BodyReading
import PostalAddress.Proofs.KeyGate
import PostalAddress.Proofs.FailureOrder
import PostalAddress.Proofs.PlacedTexts
import PostalAddress.Proofs.RecoveredUnits
import PostalAddress.Proofs.FiledUnits
import PostalAddress.Proofs.CountedRoutes
import PostalAddress.Proofs.CutText
import PostalAddress.Proofs.CommaLoop
import PostalAddress.Proofs.CitySegments
import PostalAddress.Proofs.RepeatedRecovery
import PostalAddress.Proofs.FirstConnector
import PostalAddress.Proofs.BareCrossings
import PostalAddress.Proofs.ConnectorWords
import PostalAddress.Proofs.ConservedText
import PostalAddress.Proofs.LastLines
import PostalAddress.Proofs.PrintedLastLines
import PostalAddress.Proofs.LocatedAddress
import PostalAddress.Proofs.ZipCodes
import PostalAddress.Proofs.DualNumbers
import PostalAddress.Proofs.NestedNotes
import PostalAddress.Proofs.CleanText
import PostalAddress.Proofs.ErrorDetails
import PostalAddress.Proofs.UsableKeys
import PostalAddress.Proofs.PortNumbers
import PostalAddress.Proofs.NormalValues
import PostalAddress.Proofs.LookedUpTerms
