import MusicLibrary.Browsing.Shelf
import MusicLibrary.Browsing.Source
import MusicLibrary.Http.Script
import MusicLibrary.Main
import MusicLibrary.Proofs.Arrangement
import MusicLibrary.Proofs.Browsing.Level
import MusicLibrary.Proofs.Browsing.Run
import MusicLibrary.Proofs.Browsing.Resolution
import MusicLibrary.Proofs.Browsing.Expansion
import MusicLibrary.Proofs.Browsing.Shape
import MusicLibrary.Proofs.Browsing.Playable
import MusicLibrary.Proofs.Browsing.Offer
import MusicLibrary.Proofs.Browsing.Descent
import MusicLibrary.Proofs.Http.Address
import MusicLibrary.Proofs.Http.Delivery
import MusicLibrary.Proofs.Media.NodeText
import MusicLibrary.Proofs.Catalogue.ItemText
import MusicLibrary.Proofs.Catalogue.ItemMembers
import MusicLibrary.Proofs.Catalogue.ListingText
import MusicLibrary.Proofs.Media.Address
import MusicLibrary.Proofs.Browsing.NodeAddress
import MusicLibrary.Proofs.Browsing.Location
import MusicLibrary.Proofs.Browsing.Root
import MusicLibrary.Proofs.Browsing.Token
import MusicLibrary.Proofs.Browsing.Dispatch
import MusicLibrary.Proofs.Catalogue.KindNames
import MusicLibrary.Proofs.Http.Truncation
import MusicLibrary.Proofs.Http.Escapes
import MusicLibrary.Proofs.Http.Target
import MusicLibrary.Proofs.Http.Query
import MusicLibrary.Proofs.BaseUrl
import MusicLibrary.Proofs.Media.Building
import MusicLibrary.Proofs.Settings
import MusicLibrary.Proofs.Environment
import MusicLibrary.Proofs.Session
import MusicLibrary.Proofs.SettingsFile
import MusicLibrary.Proofs.Catalogue.Numbers
import MusicLibrary.Proofs.FileType.Ending
import MusicLibrary.Proofs.Http.Authorization
import MusicLibrary.Proofs.Walk
